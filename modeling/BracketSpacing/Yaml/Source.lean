import BracketSpacing.Text.Stream
import BracketSpacing.Yaml.Glyph

/-!
# Texts of documents

`Source.ofBytes`: the text of a document from the bytes of a file. The text comes in parts, and one that cannot be read
does not matter before all parts in front of it are used up.
-/

namespace BracketSpacing.Yaml

/-- A text, and why it breaks off if it does. -/
structure Source where
  text : List Char
  breakage : Option Error

/-- The parts up to the first that holds a character which may not stand in a document. -/
def Source.ofParts (failure : Option Error) : List (List Char) → Source
  | [] => ⟨[], failure⟩
  | part :: parts =>
    if part.all isAllowed then
      let others := ofParts failure parts
      ⟨part ++ others.text, others.breakage⟩
    else ⟨[], some .malformed⟩

/-- The text of a document. The first two parts are read at once, before anything is made of them. -/
def Source.ofBytes (bytes : List UInt8) : Except Error Source :=
  let all := Text.partsOf bytes
  let failure := all.failure.map Error.undecodable
  match all.parts, failure with
  | a :: b :: parts, _ =>
    if (a ++ b).all isAllowed then
      let others := ofParts failure parts
      .ok ⟨a ++ b ++ others.text, others.breakage⟩
    else .error .malformed
  | _, some e => .error e
  | parts, none =>
    if parts.flatten.all isAllowed then .ok ⟨parts.flatten, none⟩ else .error .malformed

end BracketSpacing.Yaml
