import BracketSpacing.Text.CodePoint
import BracketSpacing.Text.Printable

/-!
# Quoted text

* `quoted` shows a text between quotes: single ones, or double ones if the text holds a single quote and no double one.
  A backslash, the quote in use and every code point that is no printable character are escaped.
* `quotedString` and `quotedList` show a string and a list of strings.
* `quotedBytes` shows bytes after a letter b, where all but ASCII is escaped.
-/

namespace BracketSpacing.Text

/-- A number in lower-case hexadecimal digits, filled up with zeros to the given width. -/
def hexadecimal (width n : Nat) : List Char :=
  let digits := Nat.toDigits 16 n
  List.replicate (width - digits.length) '0' ++ digits

/-- The quote that surrounds a text. -/
def quoteFor (s : List CodePoint) : Char :=
  if s.contains (.ofChar '\'') && !s.contains (.ofChar '"') then '"' else '\''

/-! ## Texts -/

/-- A code point by its number. -/
def numbered (p : CodePoint) : List Char :=
  if p.value < 0x100 then '\\' :: 'x' :: hexadecimal 2 p.value
  else if p.value < 0x10000 then '\\' :: 'u' :: hexadecimal 4 p.value
  else '\\' :: 'U' :: hexadecimal 8 p.value

/-- A code point as it stands between quotes. -/
def escaped (quote : Char) (p : CodePoint) : List Char :=
  match p.char? with
  | none => numbered p
  | some c =>
    if c = quote ∨ c = '\\' then ['\\', c]
    else if c = '\n' then ['\\', 'n']
    else if c = '\r' then ['\\', 'r']
    else if c = '\t' then ['\\', 't']
    else if isPrintable c then [c]
    else numbered p

/-- The text between quotes. -/
def quoted (s : List CodePoint) : List Char :=
  let quote := quoteFor s
  quote :: s.flatMap (escaped quote) ++ [quote]

/-- The string between quotes. -/
def quotedString (s : String) : String :=
  String.ofList (quoted (pointsOf s))

/-- Strings between quotes, in brackets and separated by commas. -/
def quotedList (items : List String) : String :=
  "[" ++ ", ".intercalate (items.map quotedString) ++ "]"

/-! ## Bytes -/

/-- A byte as it stands between quotes. -/
def escapedByte (quote : Char) (b : UInt8) : List Char :=
  let c := Char.ofNat b.toNat
  if c = quote ∨ c = '\\' then ['\\', c]
  else if c = '\n' then ['\\', 'n']
  else if c = '\r' then ['\\', 'r']
  else if c = '\t' then ['\\', 't']
  else if 0x20 ≤ b && b < 0x7F then [c]
  else '\\' :: 'x' :: hexadecimal 2 b.toNat

/-- The bytes between quotes. -/
def quotedBytes (bytes : List UInt8) : List Char :=
  let quote := quoteFor (bytes.map fun b => .ofChar (Char.ofNat b.toNat))
  'b' :: quote :: bytes.flatMap (escapedByte quote) ++ [quote]

end BracketSpacing.Text
