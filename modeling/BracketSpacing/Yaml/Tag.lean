import BracketSpacing.Text.LineBreak
import BracketSpacing.Yaml.Timestamp

/-!
# Kinds of values

* `Tag`: the kinds of value that a node can have.
* `Tag.ofName`: the kind of a full name.
* `Tag.ofPlain`: the kind of a text that stands without quotes and without a tag.

A line break at the end of a text does not count for its kind.
-/

namespace BracketSpacing.Yaml

open Text (CodePoint)

/-- The kind of a value. `merge` and `default` are the kinds of the texts `<<` and `=`, which mean something as keys
only. -/
inductive Tag where
  | null
  | bool
  | int
  | float
  | timestamp
  | text
  | bytes
  | sequence
  | mapping
  | set
  | orderedMap
  | pairs
  | merge
  | default
  | unknown
  deriving DecidableEq

namespace Tag

/-- The kind with the given full name. -/
def ofName (name : String) : Tag :=
  match name with
  | "tag:yaml.org,2002:null" => null
  | "tag:yaml.org,2002:bool" => bool
  | "tag:yaml.org,2002:int" => int
  | "tag:yaml.org,2002:float" => float
  | "tag:yaml.org,2002:timestamp" => timestamp
  | "tag:yaml.org,2002:str" => text
  | "tag:yaml.org,2002:binary" => bytes
  | "tag:yaml.org,2002:seq" => sequence
  | "tag:yaml.org,2002:map" => mapping
  | "tag:yaml.org,2002:set" => set
  | "tag:yaml.org,2002:omap" => orderedMap
  | "tag:yaml.org,2002:pairs" => pairs
  | "tag:yaml.org,2002:merge" => merge
  | "tag:yaml.org,2002:value" => default
  | _ => unknown

/-- Whether values of this kind hold others. -/
def isCollection : Tag → Bool
  | sequence | mapping | set | orderedMap | pairs => true
  | _ => false

end Tag

/-! ## Classes of texts -/

/-- The words for true. -/
def trueWords : List String :=
  ["yes", "Yes", "YES", "true", "True", "TRUE", "on", "On", "ON"]

/-- The words for false. -/
def falseWords : List String :=
  ["no", "No", "NO", "false", "False", "FALSE", "off", "Off", "OFF"]

/-- The words for null; nothing at all is one of them. -/
def nullWords : List String :=
  ["~", "null", "Null", "NULL", ""]

/-- A digit or an underscore. -/
def isGroupedDigit (c : Char) : Bool :=
  c.isDigit || c == '_'

/-- The text without a sign in front. -/
def unsigned (s : List Char) : List Char :=
  (Text.splitSign s).2

/-- The texts between separators, empty ones included. -/
def splitAt {α : Type} [DecidableEq α] (separator : α) : List α → List (List α)
  | [] => [[]]
  | c :: s =>
    match splitAt separator s with
    | part :: parts => if c = separator then [] :: part :: parts else (c :: part) :: parts
    | [] => [[c]]

/-- One digit, or two that make less than sixty. -/
def isSixtieth : List Char → Bool
  | [a] => a.isDigit
  | [a, b] => '0' ≤ a && a ≤ '5' && b.isDigit
  | _ => false

/-- Colons with sixtieths after them, one or more. -/
def areSixtieths : List Char → Bool
  | ':' :: s => (splitAt ':' s).all isSixtieth
  | _ => false

/-- Whether a text writes a whole number: in the bases two, eight, ten or sixteen, or in sixtieths. -/
def isWhole (s : List Char) : Bool :=
  match unsigned s with
  | '0' :: 'b' :: s => !s.isEmpty && s.all fun c => c == '0' || c == '1' || c == '_'
  | '0' :: 'x' :: s => !s.isEmpty && s.all fun c => (Text.hexDigit? c).isSome || c == '_'
  | '0' :: s => s.all fun c => ('0' ≤ c && c ≤ '7') || c == '_'
  | c :: s =>
    let rest := s.dropWhile isGroupedDigit
    c.isDigit && (rest.isEmpty || areSixtieths rest)
  | [] => false

/-- Nothing, or an exponent with its sign. -/
def isExponent : List Char → Bool
  | [] => true
  | e :: sign :: digits =>
    (e == 'e' || e == 'E') && (sign == '+' || sign == '-') && !digits.isEmpty && digits.all Char.isDigit
  | _ => false

/-- Whether a text writes a decimal number: with a point among digits, or in sixtieths with a point after them, or as
infinity, or as no number at all. A sign before a point at the front is taken with infinity only. -/
def isDecimal (s : List Char) : Bool :=
  match unsigned s with
  | '.' :: places =>
    ["inf", "Inf", "INF"].contains (String.ofList places) ||
      (unsigned s == s && (["nan", "NaN", "NAN"].contains (String.ofList places) ||
        (places.head?.any Char.isDigit && isExponent (places.dropWhile isGroupedDigit))))
  | c :: s =>
    let rest := s.dropWhile isGroupedDigit
    c.isDigit && match rest with
      | '.' :: places => isExponent (places.dropWhile isGroupedDigit)
      | _ =>
        let sixtieths := rest.takeWhile (· != '.')
        match rest.dropWhile (· != '.') with
        | '.' :: places => areSixtieths sixtieths && places.all isGroupedDigit
        | _ => false
  | [] => false

/-! ## The kind of a text -/

/-- The kind of a plain text of characters. -/
def Tag.ofChars (text : List Char) : Tag :=
  let s := Text.dropFinalBreak text
  let word := String.ofList s
  if text = ['\n'] then .text
  else if trueWords.contains word || falseWords.contains word then .bool
  else if isDecimal s then .float
  else if isWhole s then .int
  else if word = "<<" then .merge
  else if nullWords.contains word then .null
  else if isTimestamp s then .timestamp
  else if word = "=" then .default
  else if word = "!" ∨ word = "&" ∨ word = "*" then .unknown
  else .text

/-- The kind of a plain text. One with surrogates is nothing but a text. -/
def Tag.ofPlain (text : List CodePoint) : Tag :=
  ((Text.chars? text).map Tag.ofChars).getD .text

end BracketSpacing.Yaml
