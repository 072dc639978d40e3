import BracketSpacing.Text.LineBreak
import BracketSpacing.Text.Utf8

/-!
# Texts that are read in parts

* `Stream`: bytes that are decoded block by block, with every line break written as a line feed.
* `Stream.read`: the next characters, up to a given number.
* `parts`: all parts of a text, and what ended it if it was not its end.

A character or a line break that lies across two blocks is kept back and taken with the second, and positions of errors
count from what was kept.
-/

namespace BracketSpacing.Text

/-- A text of which some bytes are decoded. -/
structure Stream where
  /-- The bytes that are not read yet. -/
  bytes : List UInt8
  /-- The bytes of an incomplete character at the end of the last block. -/
  kept : List UInt8 := []
  /-- Whether the last block ended in a carriage return that was kept back. -/
  held : Bool := false
  /-- The characters that are decoded and not delivered yet. -/
  ready : List Char := []
  /-- The number of bytes in the last block, and of the characters in them. -/
  lastBytes : Nat := 0
  lastChars : Nat := 0

namespace Stream

/-- The least number of bytes of a block. -/
def blockSize : Nat := 8192

/-- The number of bytes of the next block, of which so many characters are wanted. -/
def nextSize (s : Stream) (wanted : Nat) : Nat :=
  let estimate := s.lastBytes * wanted / s.lastChars
  if blockSize < estimate then estimate else blockSize

/-- The text of bytes, and the bytes at the end that begin a character. -/
def decodeFront (bytes : List UInt8) : Except Utf8.DecodeError (List Char × List UInt8) :=
  match Utf8.decode bytes with
  | .ok text => .ok (text, [])
  | .error e =>
    if e.reason = .unexpectedEnd then (Utf8.decode (bytes.take e.position)).map fun text => (text, e.bytes)
    else .error e

/-- The text without a carriage return at its end, and whether there was one. -/
def splitHeld (text : List Char) : List Char × Bool :=
  if text.getLast? = some '\r' then (text.dropLast, true) else (text, false)

/-- The stream with one more block decoded. -/
def readBlock (s : Stream) (size : Nat) : Except Utf8.DecodeError Stream := do
  let block := s.bytes.take size
  let (text, kept) ← decodeFront (s.kept ++ block)
  let (text, held) := splitHeld (if s.held && !text.isEmpty then '\r' :: text else text)
  let text := unifyLineBreaks text
  return {
    bytes := s.bytes.drop size
    kept := kept
    held := held || (s.held && text.isEmpty)
    ready := s.ready ++ text
    lastBytes := block.length
    lastChars := text.length }

/-- The stream after its last block: nothing is kept back any more. -/
def close (s : Stream) : Except Utf8.DecodeError Stream := do
  let text ← Utf8.decode s.kept
  let text := unifyLineBreaks (if s.held then '\r' :: text else text)
  return { bytes := [], ready := s.ready ++ text }

/-- The next characters, so many if there are as many, and the stream after them. -/
def read (wanted : Nat) (s : Stream) : Except Utf8.DecodeError (List Char × Stream) :=
  if wanted ≤ s.ready.length then .ok (s.ready.take wanted, { s with ready := s.ready.drop wanted })
  else if s.bytes.isEmpty then s.close.map fun s => (s.ready.take wanted, { s with ready := s.ready.drop wanted })
  else
    match s.readBlock (s.nextSize (wanted - s.ready.length)) with
    | .error e => .error e
    | .ok t => if _h : t.bytes.length < s.bytes.length then t.read wanted else .ok ([], t)
termination_by s.bytes.length
decreasing_by exact _h

end Stream

/-- A text in parts, and the bytes after them that are no character, if there are such. -/
structure Parts where
  parts : List (List Char)
  failure : Option Utf8.DecodeError

/-- The number of characters of a part. -/
def partSize : Nat := 4096

/-- The parts of a stream, of which there are at most `fuel`. -/
def Stream.parts : (fuel : Nat) → Stream → Parts
  | 0, _ => ⟨[], none⟩
  | fuel + 1, s =>
    match s.read partSize with
    | .error e => ⟨[], some e⟩
    | .ok ([], _) => ⟨[], none⟩
    | .ok (part, s) =>
      let others := s.parts fuel
      ⟨part :: others.parts, others.failure⟩

/-- The parts of the text of some bytes. Every part takes a byte at least. -/
def partsOf (bytes : List UInt8) : Parts :=
  Stream.parts (bytes.length + 1) { bytes := bytes }

end BracketSpacing.Text
