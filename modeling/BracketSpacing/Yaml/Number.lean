import BracketSpacing.Settings.Value
import BracketSpacing.Text.Lowercase
import BracketSpacing.Yaml.Tag

/-!
# Numbers as documents write them

`wholeValue` and `decimalValue`: the numbers that texts write. Underscores between digits do not count, groups between
colons count to the base of sixty, and a sign is read apart from the number behind it.
-/

namespace BracketSpacing.Yaml

open Text (CodePoint pointsOf)

/-- The text without underscores. -/
def ungrouped (text : List CodePoint) : List CodePoint :=
  text.filter (· != .ofChar '_')

/-- Whether there is a hyphen in front, and the text without a sign in front. There must be something behind it. -/
def splitNumber (text : List CodePoint) : Except Error (Bool × List CodePoint) :=
  match text with
  | [] => .error .emptyNumber
  | p :: s => .ok (if p = .ofChar '-' then (true, s) else if p = .ofChar '+' then (false, s) else (false, text))

/-- The sum of parts to the base of sixty. -/
def ofSixtieths (parts : List Int) : Int :=
  parts.foldl (fun n part => 60 * n + part) 0

/-- The whole number that a text without a sign writes. A zero, and `b` or `x` after it, say in which base. -/
def unsignedWhole (s : List CodePoint) : Except Error Int :=
  let read (base : Nat) (s : List CodePoint) : Except Error Int := (Text.wholeNumber base s).mapError .numeral
  match s.map CodePoint.char? with
  | [] => .error .emptyNumber
  | [some '0'] => .ok 0
  | some '0' :: some 'b' :: _ => read 2 (s.drop 2)
  | some '0' :: some 'x' :: _ => read 16 (s.drop 2)
  | some '0' :: _ => read 8 s
  | _ => if s.contains (.ofChar ':') then ((splitAt (.ofChar ':') s).mapM (read 10)).map ofSixtieths else read 10 s

/-- The whole number that a text writes. -/
def wholeValue (text : List CodePoint) : Except Error Value := do
  let (negative, s) ← splitNumber (ungrouped text)
  let n ← unsignedWhole s
  return .int (if negative then -n else n)

/-- The least power of two that no floating point number reaches, less half of the last gap below it. -/
def floatLimit : Nat :=
  Nat.pow 2 1024 - Nat.pow 2 970

/-- The sum of parts to the base of sixty, the last part first. -/
def sumSixtieths (sum : Float) (unit : Nat) : List Float → Except Error Float
  | [] => .ok sum
  | part :: parts =>
    if floatLimit ≤ unit then .error .tooManyPlaces
    else sumSixtieths (sum + part * Float.ofNat unit) (unit * 60) parts

/-- The decimal number that a text without a sign writes. -/
def unsignedDecimal (s : List CodePoint) : Except Error Float :=
  let read (s : List CodePoint) : Except Error Float := (Text.decimalNumber s).mapError .numeral
  if s = pointsOf ".inf" then .ok (1.0 / 0.0)
  else if s.contains (.ofChar ':') then do
    let parts ← (splitAt (.ofChar ':') s).mapM read
    sumSixtieths 0 1 parts.reverse
  else read s

/-- The decimal number that a text writes, which stands at a node of the given number. All that write `.nan` write the
same. -/
def decimalValue (node : Nat) (text : List CodePoint) : Except Error Value := do
  let (negative, s) ← splitNumber (Text.lowercase (ungrouped text))
  if s = pointsOf ".nan" then return .nan none
  let f ← unsignedDecimal s
  return if f.isNaN then .nan (some node) else .float (if negative then -f else f)

end BracketSpacing.Yaml
