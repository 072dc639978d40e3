import BracketSpacing.Decimal.Shortest

/-!
# Decimals as text

* `Layout`: which exponents are written out as positions, and how the others are written.
* `Layout.render`: the text of a floating point number.
-/

namespace BracketSpacing.Decimal

/-- How decimals are laid out. The exponent is that of the leading digit. -/
structure Layout where
  /-- The least exponent that is written out as a position. -/
  plainFrom : Int
  /-- The least exponent above those that are written out. -/
  plainBelow : Int
  /-- The least number of digits of an exponent that is written down. -/
  exponentWidth : Nat

/-- A number in decimal digits, filled up with zeros to the given width. -/
def padded (width n : Nat) : String :=
  let digits := Nat.toDigits 10 n
  String.ofList (List.replicate (width - digits.length) '0' ++ digits)

namespace Layout

/-- Digits with a point among them, so many places after the first `point` digits. There is a digit on both sides of
the point. -/
def plain (digits : List Char) (point : Int) : String :=
  if point ≤ 0 then "0." ++ String.ofList (List.replicate (-point).toNat '0' ++ digits)
  else
    let whole := digits.take point.toNat ++ List.replicate (point.toNat - digits.length) '0'
    let places := digits.drop point.toNat
    String.ofList whole ++ "." ++ (if places.isEmpty then "0" else String.ofList places)

/-- Digits with a point after the first, and an exponent with its sign. -/
def scientific (l : Layout) (digits : List Char) (exponent : Int) : String :=
  let mantissa := match digits with
    | [] => "0"
    | [d] => String.ofList [d]
    | d :: places => String.ofList (d :: '.' :: places)
  mantissa ++ "e" ++ (if exponent < 0 then "-" else "+") ++ padded l.exponentWidth exponent.natAbs

/-- The text of a decimal. -/
def renderDigits (l : Layout) (d : Digits) : String :=
  let digits := Nat.toDigits 10 d.d
  let exponent := d.k + digits.length - 1
  if l.plainFrom ≤ exponent ∧ exponent < l.plainBelow then plain digits (exponent + 1)
  else l.scientific digits exponent

/-- The text of a number: the shortest decimal that reads back, `inf` or `nan`. -/
def render (l : Layout) (f : Float) : String :=
  if f.isNaN then "nan"
  else
    let sign := if f.toBits.toNat / Nat.pow 2 63 = 1 then "-" else ""
    if f.isInf then sign ++ "inf" else sign ++ l.renderDigits (Binary.ofFloat f).shortest

end Layout

end BracketSpacing.Decimal
