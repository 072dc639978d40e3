/-!
# Segments of a text

* `Segment`: a stretch of text that is code or a literal.
* `joined`: the text that a list of segments was cut from.
* `consCode`: one more character of code in front. It joins a code segment that already stands there, so that no two
  code segments are neighbours.

`joined_consCode` says that `consCode` puts its character in front of the joined text.
-/

namespace BracketSpacing

/-- Code is normalized; a literal (string, comment or heredoc) is left as it is. -/
inductive Kind where
  | code
  | literal
  deriving DecidableEq

/-- A stretch of text of one kind. -/
structure Segment where
  kind : Kind
  text : List Char
  deriving DecidableEq

namespace Segment

/-- A segment of code. -/
abbrev code (text : List Char) : Segment := ⟨.code, text⟩

/-- A literal. -/
abbrev literal (text : List Char) : Segment := ⟨.literal, text⟩

/-- Whether the segment is code. -/
def isCode (s : Segment) : Bool :=
  s.kind == .code

/-- The segments put back together. -/
def joined : List Segment → List Char
  | [] => []
  | s :: segments => s.text ++ joined segments

/-- One character of code in front of the segments. -/
def consCode (c : Char) : List Segment → List Segment
  | ⟨.code, text⟩ :: segments => code (c :: text) :: segments
  | segments => code [c] :: segments

@[simp] theorem joined_nil : joined [] = [] := rfl

@[simp] theorem joined_cons (s : Segment) (segments : List Segment) :
    joined (s :: segments) = s.text ++ joined segments := rfl

@[simp] theorem joined_consCode (c : Char) (segments : List Segment) :
    joined (consCode c segments) = c :: joined segments := by
  rcases segments with _ | ⟨⟨_ | _, text⟩, segments⟩ <;> rfl

end Segment

end BracketSpacing
