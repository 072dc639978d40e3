import BracketSpacing.Segment.Basic
import BracketSpacing.Text.Digit

/-!
# Placeholders for literals

While brackets are padded, a numbered mark stands for each literal. A mark is an opening character, the number in
decimal digits, a line feed if the literal spans lines, and a closing character. Both characters are private use
characters. The line feed makes brackets around a literal that spans lines span lines too.

* `Mark`: a number and whether there is a line feed; `Mark.text` writes it and `Mark.read?` reads it.
* `mask`: the segments with a mark in place of each literal.
* `restore`: a text with the literals back in place of their marks.
-/

namespace BracketSpacing.Placeholder

/-- The character that opens a mark. -/
def opening : Char := '\uE000'

/-- The character that closes a mark. -/
def closing : Char := '\uE001'

/-- Whether a character opens or closes marks. -/
def isDelimiter (c : Char) : Bool :=
  c == opening || c == closing

/-! ## Marks -/

/-- The number of a literal, and whether the literal spans lines. -/
structure Mark where
  number : Nat
  spansLines : Bool
  deriving DecidableEq

/-- A mark as it stands in a text. -/
def Mark.text (m : Mark) : List Char :=
  opening :: (Nat.toDigits 10 m.number ++ (if m.spansLines then ['\n'] else []) ++ [closing])

/-- The mark at the front of a text, and what follows it. -/
def Mark.read? : List Char → Option (Mark × List Char)
  | [] => none
  | c :: s =>
    let digits := s.takeWhile Text.isDecimalDigit
    if c ≠ opening ∨ digits = [] then none
    else
      match s.dropWhile Text.isDecimalDigit with
      | '\n' :: d :: rest => if d = closing then some (⟨Text.ofDecimalDigits digits, true⟩, rest) else none
      | d :: rest => if d = closing then some (⟨Text.ofDecimalDigits digits, false⟩, rest) else none
      | [] => none

/-- What follows a mark is shorter than the text. -/
theorem Mark.read?_rest_lt {s rest : List Char} {m : Mark} (h : Mark.read? s = some (m, rest)) :
    rest.length < s.length := by
  cases s with
  | nil => simp [read?] at h
  | cons c s =>
    simp only [read?] at h
    split at h
    · simp at h
    · have hd := (List.dropWhile_suffix Text.isDecimalDigit (l := s)).length_le
      split at h
      · next d r hs =>
        split at h <;> simp only [Option.some.injEq, Prod.mk.injEq, reduceCtorEq] at h
        rw [hs] at hd
        simp only [List.length_cons] at hd ⊢
        rw [← h.2]
        omega
      · next d r _ hs =>
        split at h <;> simp only [Option.some.injEq, Prod.mk.injEq, reduceCtorEq] at h
        rw [hs] at hd
        simp only [List.length_cons] at hd ⊢
        rw [← h.2]
        omega
      · simp at h

/-! ## Masking -/

/-- Whether a text has a line break. -/
def hasLineBreak (s : List Char) : Bool :=
  s.any fun c => c == '\n' || c == '\r'

/-- The literals among the segments, in order. -/
def literals (segments : List Segment) : List (List Char) :=
  (segments.filter fun s => !s.isCode).map (·.text)

/-- The segments with marks for literals, numbered from `k` on. -/
def maskFrom (k : Nat) : List Segment → List Char
  | [] => []
  | ⟨.code, text⟩ :: segments => text ++ maskFrom k segments
  | ⟨.literal, text⟩ :: segments => Mark.text ⟨k, hasLineBreak text⟩ ++ maskFrom (k + 1) segments

/-- The segments with marks for literals. -/
def mask (segments : List Segment) : List Char :=
  maskFrom 0 segments

/-! ## Restoring -/

/-- The text with each mark replaced by its literal. -/
def restore (literals : Array (List Char)) : List Char → List Char
  | [] => []
  | c :: s =>
    match _h : Mark.read? (c :: s) with
    | some (m, rest) => literals[m.number]?.getD [] ++ restore literals rest
    | none => c :: restore literals s
termination_by s => s.length
decreasing_by
  all_goals first
    | exact Mark.read?_rest_lt (by assumption)
    | exact Nat.lt_succ_self _

end BracketSpacing.Placeholder
