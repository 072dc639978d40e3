import BracketSpacing.Segment.Basic

/-!
# Texts as code characters and whole literals

* `Piece`: one character of code, or a literal. A list of pieces is a text without the borders of its code segments.
* `ofSegments` cuts segments into pieces, and `merged` joins runs of code again.
* `Segment.prependCode`: segments with code in front, which joins a code segment that already stands there. Merging puts
  a run of code in front in this way (`merged_codes_append_eq`).
* `IsMerged`: no code segment is empty or has a code segment next to it. Such segments are what merging gives
  (`isMerged_merged`), and they can be told from their pieces (`merged_ofSegments`).
-/

namespace BracketSpacing

/-! ## Code in front of segments -/

namespace Segment

/-- Code in front of the segments. It joins a code segment that already stands there, and none is made for no code. -/
def prependCode (w : List Char) : List Segment → List Segment
  | ⟨.code, text⟩ :: segments => code (w ++ text) :: segments
  | segments => if w.isEmpty then segments else code w :: segments

@[simp] theorem prependCode_nil (segments : List Segment) : prependCode [] segments = segments := by
  rcases segments with _ | ⟨⟨_ | _, text⟩, segments⟩ <;> rfl

theorem prependCode_cons (c : Char) (w : List Char) (segments : List Segment) :
    prependCode (c :: w) segments = consCode c (prependCode w segments) := by
  rcases segments with _ | ⟨⟨_ | _, text⟩, segments⟩
  · cases w <;> rfl
  · rfl
  · cases w <;> rfl

end Segment

/-! ## Pieces -/

/-- A character of code, or a literal as a whole. -/
inductive Piece where
  | code (c : Char)
  | literal (text : List Char)
  deriving DecidableEq

namespace Piece

/-- The text of one piece. -/
def text : Piece → List Char
  | code c => [c]
  | literal s => s

/-- The text that the pieces make up. -/
def joined : List Piece → List Char
  | [] => []
  | x :: pieces => x.text ++ joined pieces

/-- Each character as a piece of code. -/
def codes (s : List Char) : List Piece :=
  s.map code

/-- The pieces of segments. -/
def ofSegments : List Segment → List Piece
  | [] => []
  | ⟨.code, s⟩ :: segments => codes s ++ ofSegments segments
  | ⟨.literal, s⟩ :: segments => literal s :: ofSegments segments

/-- The segments of pieces, with each run of code in one segment. -/
def merged : List Piece → List Segment
  | [] => []
  | code c :: pieces => Segment.consCode c (merged pieces)
  | literal s :: pieces => Segment.literal s :: merged pieces

/-- No code segment is empty or stands next to another. -/
def IsMerged : List Segment → Prop
  | [] => True
  | ⟨.code, s⟩ :: segments => s ≠ [] ∧ (∀ t ∈ segments.head?, t.kind = .literal) ∧ IsMerged segments
  | ⟨.literal, _⟩ :: segments => IsMerged segments

variable {p q : List Piece} {s : List Char} {segments : List Segment}

@[simp] theorem joined_nil : joined [] = [] := rfl

@[simp] theorem joined_code (c : Char) (p : List Piece) : joined (code c :: p) = c :: joined p := rfl

@[simp] theorem joined_literal (s : List Char) (p : List Piece) : joined (literal s :: p) = s ++ joined p := rfl

@[simp] theorem codes_nil : codes [] = [] := rfl

@[simp] theorem codes_cons (c : Char) (s : List Char) : codes (c :: s) = code c :: codes s := rfl

@[simp] theorem joined_append : ∀ p q : List Piece, joined (p ++ q) = joined p ++ joined q
  | [], _ => rfl
  | x :: p, q => by
    show x.text ++ joined (p ++ q) = x.text ++ joined p ++ joined q
    rw [joined_append p q, List.append_assoc]

@[simp] theorem joined_codes : ∀ s : List Char, joined (codes s) = s
  | [] => rfl
  | c :: s => by rw [codes_cons, joined_code, joined_codes s]

@[simp] theorem joined_ofSegments : ∀ segments : List Segment, joined (ofSegments segments) = Segment.joined segments
  | [] => rfl
  | ⟨.code, s⟩ :: segments => by
    rw [ofSegments, joined_append, joined_codes, joined_ofSegments segments, Segment.joined_cons]
  | ⟨.literal, s⟩ :: segments => by
    rw [ofSegments, joined_literal, joined_ofSegments segments, Segment.joined_cons]

@[simp] theorem ofSegments_consCode (c : Char) (segments : List Segment) :
    ofSegments (Segment.consCode c segments) = code c :: ofSegments segments := by
  rcases segments with _ | ⟨⟨_ | _, s⟩, segments⟩ <;> rfl

/-- Merging and cutting gives the pieces back. -/
@[simp] theorem ofSegments_merged : ∀ p : List Piece, ofSegments (merged p) = p
  | [] => rfl
  | code c :: p => by rw [merged, ofSegments_consCode, ofSegments_merged p]
  | literal s :: p => by rw [merged, ofSegments, ofSegments_merged p]

theorem isMerged_consCode (c : Char) (h : IsMerged segments) : IsMerged (Segment.consCode c segments) := by
  rcases segments with _ | ⟨⟨_ | _, s⟩, segments⟩
  · exact ⟨by simp, by simp, trivial⟩
  · exact ⟨by simp, h.2⟩
  · refine ⟨by simp, ?_, h⟩
    rintro t ⟨⟩
    rfl

/-- Merging leaves no empty code segment and no two neighbours. -/
theorem isMerged_merged : ∀ p : List Piece, IsMerged (merged p)
  | [] => trivial
  | code c :: p => isMerged_consCode c (isMerged_merged p)
  | literal _ :: p => isMerged_merged p

/-- A run of code comes in front of the other segments. -/
theorem merged_codes_append_eq (w : List Char) (p : List Piece) :
    merged (codes w ++ p) = Segment.prependCode w (merged p) := by
  induction w with
  | nil => rw [codes_nil, List.nil_append, Segment.prependCode_nil]
  | cons c w ih => rw [codes_cons, List.cons_append, merged, ih, Segment.prependCode_cons]

/-- A run of code before a literal or the end is one segment. -/
theorem merged_codes_append (hs : s ≠ []) (h : ∀ t ∈ (merged p).head?, t.kind = .literal) :
    merged (codes s ++ p) = Segment.code s :: merged p := by
  rw [merged_codes_append_eq]
  rcases hp : merged p with _ | ⟨⟨_ | _, t⟩, segments⟩
  · exact if_neg (by simpa using hs)
  · rw [hp] at h
    exact absurd (h _ rfl) (by simp)
  · exact if_neg (by simpa using hs)

/-- A literal behind other pieces is a segment of its own. -/
theorem merged_append_literal (s : List Char) (q : List Piece) : ∀ p : List Piece,
    merged (p ++ literal s :: q) = merged p ++ Segment.literal s :: merged q
  | [] => rfl
  | literal r :: p => by rw [List.cons_append, merged, merged_append_literal s q p, merged, List.cons_append]
  | code c :: p => by
    rw [List.cons_append, merged, merged_append_literal s q p, merged]
    rcases merged p with _ | ⟨⟨_ | _, r⟩, segments⟩ <;> rfl

/-- Merged segments are told from their pieces. -/
theorem merged_ofSegments : ∀ {segments : List Segment}, IsMerged segments → merged (ofSegments segments) = segments
  | [], _ => rfl
  | ⟨.code, s⟩ :: segments, ⟨hs, hn, h⟩ => by
    have ih := merged_ofSegments h
    rw [ofSegments, merged_codes_append hs (by rwa [ih]), ih]
  | ⟨.literal, s⟩ :: segments, h => by
    have hs : IsMerged segments := h
    rw [ofSegments, merged, merged_ofSegments hs]

end Piece

end BracketSpacing
