import BracketSpacing.Text.Blank
import BracketSpacing.Text.CodePoint
import BracketSpacing.Text.Digit
import BracketSpacing.Text.Quoted
import BracketSpacing.Text.Trim

/-!
# Numerals

* `wholeNumber`: the whole number that a text writes in a base.
* `decimalNumber`: the floating point number that a text writes, nearest to the decimal.
* `showWhole?`: a whole number in decimal digits, unless there are too many.

Digits of all scripts count, and blanks around a numeral do not.
-/

namespace BracketSpacing.Text

/-! ## Errors -/

/-- Why a text is no numeral, or a number is not shown. -/
inductive NumeralError where
  /-- The text writes no whole number in the base. -/
  | notWhole (base : Nat) (text : List CodePoint)
  /-- The text writes no decimal number. -/
  | notDecimal (text : List CodePoint)
  /-- The text has more decimal digits than are read. -/
  | tooManyDigits (count : Nat)
  deriving DecidableEq

/-- The greatest number of decimal digits that are read or shown. -/
def digitLimit : Nat := 4300

/-- What is said about a number of too many digits, after a count of them if they were counted. -/
def tooManyDigitsMessage (count : String) : String :=
  "Exceeds the limit (" ++ toString digitLimit ++ " digits) for integer string conversion" ++ count ++
    "; use sys.set_int_max_str_digits() to increase the limit"

/-- What is said about the error. Of a long text only the beginning is shown. -/
def NumeralError.message : NumeralError → String
  | notWhole base text =>
    "invalid literal for int() with base " ++ toString base ++ ": " ++ String.ofList ((quoted text).take 200)
  | notDecimal text => "could not convert string to float: " ++ String.ofList (quoted text)
  | tooManyDigits count => tooManyDigitsMessage (": value has " ++ toString count ++ " digits")

/-! ## Characters of numerals -/

/-- The character of ASCII that a character stands for in a numeral; a question mark stands for none. -/
def numeralChar (c : Char) : Char :=
  if c.toNat < 0x7F then c
  else if isBlank c then ' '
  else
    match decimalDigit? c with
    | some d => Char.ofNat (0x30 + d)
    | none => '?'

/-- White space of ASCII. -/
def isAsciiBlank (c : Char) : Bool :=
  c == ' ' || (0x09 ≤ c.toNat && c.toNat ≤ 0x0D)

/-- The characters of a numeral, without blanks around it. -/
def numeralChars (text : List CodePoint) : List Char :=
  strip isAsciiBlank (text.map fun p => (p.char?.map numeralChar).getD '?')

/-- Whether a sign in front makes a number negative, and what follows the sign. -/
def splitSign : List Char → Bool × List Char
  | '+' :: s => (false, s)
  | '-' :: s => (true, s)
  | s => (false, s)

/-- The value of a hexadecimal digit. -/
def hexDigit? (c : Char) : Option Nat :=
  if c.isDigit then some (c.toNat - 0x30)
  else if 'a' ≤ c && c ≤ 'f' then some (c.toNat - 0x57)
  else if 'A' ≤ c && c ≤ 'F' then some (c.toNat - 0x37)
  else none

/-! ## Whole numbers -/

/-- The letters that may stand after a zero in front of a number of the base. -/
def baseLetters (base : Nat) : List Char :=
  match base with
  | 2 => ['b', 'B']
  | 8 => ['o', 'O']
  | 16 => ['x', 'X']
  | _ => []

/-- The text without a zero and a letter of the base in front. -/
def dropBaseLetter (base : Nat) : List Char → List Char
  | '0' :: c :: s => if (baseLetters base).contains c then s else '0' :: c :: s
  | s => s

/-- The number that digits of a base write. There must be one, and all must be below the base. -/
def ofDigits? (base : Nat) (digits : List Char) : Option Nat :=
  if digits.isEmpty then none
  else digits.foldl (fun value c =>
    value.bind fun n => (hexDigit? c).bind fun d => if d < base then some (base * n + d) else none) (some 0)

/-- The whole number that a text writes in a base. -/
def wholeNumber (base : Nat) (text : List CodePoint) : Except NumeralError Int :=
  let (negative, body) := splitSign (numeralChars text)
  let digits := dropBaseLetter base body
  let count := (digits.takeWhile Char.isDigit).length
  if base = 10 ∧ digitLimit < count then .error (.tooManyDigits count)
  else
    match ofDigits? base digits with
    | some n => .ok (if negative then -(n : Int) else n)
    | none => .error (.notWhole base text)

/-- A whole number in decimal digits, unless there are too many. -/
def showWhole? (i : Int) : Option String :=
  if i.natAbs < Nat.pow 10 digitLimit then some (toString i) else none

/-! ## Decimal numbers -/

/-- The number of digits before and after a point, scaled by an exponent. Beyond what any number of this size can reach
the exponent does not matter. -/
def scaledNumber (whole places : List Char) (exponent : Int) : Float :=
  let digits := whole ++ places
  let value := Nat.ofDigitChars 10 digits 0
  let reach := digits.length + 800
  let exponent := exponent - places.length
  let size := if exponent.natAbs < reach then exponent.natAbs else reach
  Float.ofScientific value (exponent < 0) size

/-- The number of an exponent, which may have a sign. -/
def exponent? (s : List Char) : Option Int :=
  let (negative, digits) := splitSign s
  if digits.isEmpty || !digits.all Char.isDigit then none
  else
    let n : Int := Nat.ofDigitChars 10 digits 0
    some (if negative then -n else n)

/-- The number that digits with a point and an exponent write, each of which may be missing. -/
def unsignedDecimal? (s : List Char) : Option Float :=
  let whole := s.takeWhile Char.isDigit
  let (places, rest) := match s.dropWhile Char.isDigit with
    | '.' :: r => (r.takeWhile Char.isDigit, r.dropWhile Char.isDigit)
    | r => ([], r)
  if (whole ++ places).isEmpty then none
  else
    match rest with
    | [] => some (scaledNumber whole places 0)
    | c :: exponent => if c = 'e' ∨ c = 'E' then (exponent? exponent).map (scaledNumber whole places) else none

/-- The number that a text without a sign writes; infinity and no number at all have names. -/
def unsignedNumber? (s : List Char) : Option Float :=
  let name := String.ofList (s.map Char.toLower)
  if name = "inf" ∨ name = "infinity" then some (1.0 / 0.0)
  else if name = "nan" then some (0.0 / 0.0)
  else unsignedDecimal? s

/-- The floating point number that a text writes. -/
def decimalNumber (text : List CodePoint) : Except NumeralError Float :=
  let (negative, body) := splitSign (numeralChars text)
  match unsignedNumber? body with
  | some f => .ok (if negative then -f else f)
  | none => .error (.notDecimal text)

end BracketSpacing.Text
