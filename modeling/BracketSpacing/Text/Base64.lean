/-!
# Bytes written in 64 characters

`Base64.decode?`: the bytes that a text writes with six bits a character. Characters beyond the alphabet do not count.
An equals sign ends the text once it fills up a group of four.
-/

namespace BracketSpacing.Text.Base64

/-- The six bits that a character stands for. -/
def sextet? (c : Char) : Option Nat :=
  if c.isUpper then some (c.toNat - 0x41)
  else if c.isLower then some (c.toNat - 0x61 + 26)
  else if c.isDigit then some (c.toNat - 0x30 + 52)
  else if c = '+' then some 62
  else if c = '/' then some 63
  else none

/-- The whole bytes in a group of up to four sextets. -/
def groupBytes : List Nat → List UInt8
  | [a, b] => [UInt8.ofNat (a * 4 + b / 16)]
  | [a, b, c] => [UInt8.ofNat (a * 4 + b / 16), UInt8.ofNat (b % 16 * 16 + c / 4)]
  | [a, b, c, d] => [UInt8.ofNat (a * 4 + b / 16), UInt8.ofNat (b % 16 * 16 + c / 4), UInt8.ofNat (c % 4 * 64 + d)]
  | _ => []

/-- The bytes of the rest of a text, after the sextets of an incomplete group and so many equals signs behind them. -/
def decodeFrom (group : List Nat) (signs : Nat) : List Char → Option (List UInt8)
  | [] => if group.isEmpty then some [] else none
  | c :: s =>
    if c = '=' then
      if group.length < 2 then decodeFrom group signs s
      else if 4 ≤ group.length + signs + 1 then some (groupBytes group)
      else decodeFrom group (signs + 1) s
    else
      match sextet? c with
      | none => decodeFrom group signs s
      | some v =>
        if group.length = 3 then (decodeFrom [] 0 s).map (groupBytes (group ++ [v]) ++ ·)
        else decodeFrom (group ++ [v]) 0 s

/-- The bytes that a text writes; none if it ends within a group. -/
def decode? (s : List Char) : Option (List UInt8) :=
  decodeFrom [] 0 s

end BracketSpacing.Text.Base64
