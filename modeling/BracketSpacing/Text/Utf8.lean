/-!
# Bytes of a text

* `encode`: the bytes of a text in UTF-8.
* `decode`: the text of some bytes, or the first sequence that is none, with the reason.
* `DecodeError.message`: what is said about that sequence.
-/

namespace BracketSpacing.Text.Utf8

/-! ## Encoding -/

/-- The bytes of a character: one to four, by its code point. -/
def encodeChar (c : Char) : List UInt8 :=
  let n := c.toNat
  if n < 0x80 then [UInt8.ofNat n]
  else if n < 0x800 then [UInt8.ofNat (0xC0 + n / 0x40), UInt8.ofNat (0x80 + n % 0x40)]
  else if n < 0x10000 then
    [UInt8.ofNat (0xE0 + n / 0x1000), UInt8.ofNat (0x80 + n / 0x40 % 0x40), UInt8.ofNat (0x80 + n % 0x40)]
  else
    [UInt8.ofNat (0xF0 + n / 0x40000), UInt8.ofNat (0x80 + n / 0x1000 % 0x40), UInt8.ofNat (0x80 + n / 0x40 % 0x40),
      UInt8.ofNat (0x80 + n % 0x40)]

/-- The bytes of a text. -/
def encode (s : List Char) : List UInt8 :=
  s.flatMap encodeChar

/-! ## Errors -/

/-- Why bytes are no character. -/
inductive Reason where
  /-- No character starts with this byte. -/
  | invalidStart
  /-- The next byte does not go on with the character. -/
  | invalidContinuation
  /-- The bytes end inside the character. -/
  | unexpectedEnd
  deriving DecidableEq

/-- The first bytes that are no character: where they stand, what they are, and why. -/
structure DecodeError where
  position : Nat
  bytes : List UInt8
  reason : Reason
  deriving DecidableEq

/-- What is said about the reason. -/
def Reason.message : Reason → String
  | invalidStart => "invalid start byte"
  | invalidContinuation => "invalid continuation byte"
  | unexpectedEnd => "unexpected end of data"

/-- What is said about the error: one byte is shown, of several the positions. -/
def DecodeError.message (e : DecodeError) : String :=
  let subject := match e.bytes with
    | [b] =>
      let digits := Nat.toDigits 16 b.toNat
      "byte 0x" ++ String.ofList (List.replicate (2 - digits.length) '0' ++ digits) ++ " in position " ++
        toString e.position
    | bytes => "bytes in position " ++ toString e.position ++ "-" ++ toString (e.position + bytes.length - 1)
  "'utf-8' codec can't decode " ++ subject ++ ": " ++ e.reason.message

/-! ## Decoding -/

/-- Whether a byte goes on with a character. -/
def isContinuation (b : UInt8) : Bool :=
  0x80 ≤ b && b ≤ 0xBF

/-- The number of bytes of the character that a byte starts, if it starts one. -/
def sequenceLength? (b : UInt8) : Option Nat :=
  if b < 0x80 then some 1
  else if 0xC2 ≤ b && b ≤ 0xDF then some 2
  else if 0xE0 ≤ b && b ≤ 0xEF then some 3
  else if 0xF0 ≤ b && b ≤ 0xF4 then some 4
  else none

/-- Whether the second byte may follow the first: it excludes overlong forms, surrogates and what lies beyond the last
code point. -/
def isSecond (lead b : UInt8) : Bool :=
  isContinuation b && (lead != 0xE0 || 0xA0 ≤ b) && (lead != 0xED || b < 0xA0) && (lead != 0xF0 || 0x90 ≤ b) &&
    (lead != 0xF4 || b < 0x90)

/-- The bits that a continuation byte carries. -/
def payload (b : UInt8) : Nat :=
  b.toNat - 0x80

/-- Why bytes that start with this lead are no character, with the bytes that are still part of one. -/
def refusal (lead : UInt8) (rest : List UInt8) : Reason × List UInt8 :=
  match sequenceLength? lead with
  | none => (.invalidStart, [lead])
  | some n =>
    match rest with
    | [] => (.unexpectedEnd, [lead])
    | b :: rest =>
      if !isSecond lead b then (.invalidContinuation, [lead])
      else
        let more := (rest.take (n - 2)).takeWhile isContinuation
        (if more.length < rest.length then .invalidContinuation else .unexpectedEnd, lead :: b :: more)

/-- The text of some bytes that stand at the given position. -/
def decodeFrom (position : Nat) : List UInt8 → Except DecodeError (List Char)
  | [] => .ok []
  | a :: rest =>
    let failure : Except DecodeError (List Char) :=
      .error ⟨position, (refusal a rest).2, (refusal a rest).1⟩
    match sequenceLength? a, rest with
    | some 1, rest => (decodeFrom (position + 1) rest).map (Char.ofNat a.toNat :: ·)
    | some 2, b :: rest =>
      if isSecond a b then
        (decodeFrom (position + 2) rest).map (Char.ofNat ((a.toNat - 0xC0) * 0x40 + payload b) :: ·)
      else failure
    | some 3, b :: c :: rest =>
      if isSecond a b && isContinuation c then
        (decodeFrom (position + 3) rest).map
          (Char.ofNat ((a.toNat - 0xE0) * 0x1000 + payload b * 0x40 + payload c) :: ·)
      else failure
    | some 4, b :: c :: d :: rest =>
      if isSecond a b && isContinuation c && isContinuation d then
        (decodeFrom (position + 4) rest).map
          (Char.ofNat ((a.toNat - 0xF0) * 0x40000 + payload b * 0x1000 + payload c * 0x40 + payload d) :: ·)
      else failure
    | _, _ => failure

/-- The text of some bytes. -/
def decode (bytes : List UInt8) : Except DecodeError (List Char) :=
  decodeFrom 0 bytes

end BracketSpacing.Text.Utf8
