import BracketSpacing.Text.Lowercase

/-!
# Paths

* `Path`: an anchor and components. `Path.ofString` drops empty and `.` components and keeps `..`; `Path.text` writes a
  path with single slashes.
* `Path.suffix`: the end of the last component from its last dot on.
* `Path.parent` and `Path.append`: towards the anchor and away from it.
* `namesLe`: the order of lists of names.
-/

namespace BracketSpacing

/-- Where a path starts: at the current directory, or at one or exactly two leading slashes. -/
inductive Anchor where
  | relative
  | slash
  | doubleSlash
  deriving DecidableEq

/-- What an anchor is written as. -/
def Anchor.text : Anchor → String
  | relative => ""
  | slash => "/"
  | doubleSlash => "//"

/-- The texts between slashes, empty ones included. -/
def splitSlashes : List Char → List (List Char)
  | [] => [[]]
  | c :: s =>
    match splitSlashes s with
    | part :: parts => if c = '/' then [] :: part :: parts else (c :: part) :: parts
    | [] => [[c]]

/-- Whether a list of names stands before another or is the same: the first names that differ decide, and a list stands
before its continuations. -/
def namesLe : List String → List String → Bool
  | [], _ => true
  | _ :: _, [] => false
  | a :: as, b :: bs => if a = b then namesLe as bs else decide (a < b)

/-- A path: its anchor and its components from there on. -/
structure Path where
  anchor : Anchor
  parts : List String
  deriving DecidableEq

namespace Path

/-- The components of a text that stand for a step somewhere: all but empty ones and single dots. -/
def partsOf (s : String) : List String :=
  ((splitSlashes s.toList).map String.ofList).filter fun part => part != "" && part != "."

/-- The anchor that leading slashes make. -/
def anchorOf (s : String) : Anchor :=
  match (s.toList.takeWhile (· == '/')).length with
  | 0 => .relative
  | 2 => .doubleSlash
  | _ => .slash

/-- The path that a text names. -/
def ofString (s : String) : Path :=
  ⟨anchorOf s, partsOf s⟩

/-- The path as text; the current directory is a dot. -/
def text (p : Path) : String :=
  match p.anchor, p.parts with
  | .relative, [] => "."
  | anchor, parts => anchor.text ++ "/".intercalate parts

/-- The path without its last component. -/
def parent (p : Path) : Path :=
  { p with parts := p.parts.dropLast }

/-- The path with more components. -/
def append (p : Path) (parts : List String) : Path :=
  { p with parts := p.parts ++ parts }

/-- The last component, empty if there is none. -/
def name (p : Path) : String :=
  p.parts.getLast?.getD ""

/-- The end of a name from its last dot on, and nothing if that dot is its first or last character. -/
def suffixOf (name : List Char) : List Char :=
  let ending := (name.reverse.takeWhile (· != '.')).reverse
  if ending.isEmpty || name.length ≤ ending.length + 1 then [] else '.' :: ending

/-- The suffix of the last component. -/
def suffix (p : Path) : List Char :=
  suffixOf p.name.toList

/-- An extension without leading dots, in lower case. -/
def plainExtension (s : List Text.CodePoint) : List Text.CodePoint :=
  Text.lowercase (s.dropWhile (· == .ofChar '.'))

end Path

end BracketSpacing
