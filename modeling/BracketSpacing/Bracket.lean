import BracketSpacing.Text.Trim
import BracketSpacing.Text.Word

/-!
# Bracket spans and their padding

A bracket span is an opening bracket, an interior without brackets and line breaks, and a closing bracket.

* `span?`: the interior and the rest after an opening bracket, if a span starts there.
* `isClassLike`: whether an interior looks like a character class, such as `a-z`, and not like an array.
* `padded`: the span with one blank on each side of its trimmed interior, or as it was if it is to be kept.
* `padAll`: a text with all its spans padded, in one sweep from left to right.
-/

namespace BracketSpacing.Bracket

/-! ## Spans -/

/-- The interior of a span whose opening bracket has been read, and what follows its closing bracket. -/
def span? : List Char → Option (List Char × List Char)
  | [] => none
  | c :: s =>
    if c = ']' then some ([], s)
    else if c = '[' ∨ c = '\r' ∨ c = '\n' then none
    else (span? s).map fun (interior, rest) => (c :: interior, rest)

/-- A span is its interior, a closing bracket and the rest. -/
theorem span?_eq {s interior rest : List Char} (h : span? s = some (interior, rest)) :
    s = interior ++ ']' :: rest := by
  induction s generalizing interior with
  | nil => simp [span?] at h
  | cons c s ih =>
    unfold span? at h
    split at h
    · simp_all
    · split at h
      · simp at h
      · obtain ⟨⟨i, r⟩, hs, he⟩ := Option.map_eq_some_iff.1 h
        simp only [Prod.mk.injEq] at he
        obtain ⟨rfl, rfl⟩ := he
        simp [ih hs]

/-- What follows a span is shorter than the text. -/
theorem span?_rest_lt {s interior rest : List Char} (h : span? s = some (interior, rest)) :
    rest.length < s.length := by
  rw [span?_eq h]
  simp only [List.length_append, List.length_cons]
  omega

/-! ## Padding -/

/-- Word characters, the caret, the hyphen and the backslash: what a character class is made of. -/
def isClassChar (c : Char) : Bool :=
  Text.isWordChar c || c == '^' || c == '-' || c == '\\'

/-- Whether an interior is a run of class characters. -/
def isClassLike (interior : List Char) : Bool :=
  !interior.isEmpty && interior.all isClassChar

/-- Whether a span stays as it is: nothing is left of its interior, or the guard takes it for a character class. -/
def isKept (guard : Bool) (interior : List Char) : Bool :=
  (Text.trim interior).isEmpty || (guard && isClassLike interior)

/-- The span of an interior after padding. -/
def padded (guard : Bool) (interior : List Char) : List Char :=
  if isKept guard interior then '[' :: (interior ++ [']'])
  else '[' :: ' ' :: (Text.trim interior ++ [' ', ']'])

/-- The text with all its spans padded. -/
def padAll (guard : Bool) : List Char → List Char
  | [] => []
  | c :: s =>
    if c = '[' then
      match _h : span? s with
      | some (interior, rest) => padded guard interior ++ padAll guard rest
      | none => c :: padAll guard s
    else c :: padAll guard s
termination_by s => s.length
decreasing_by
  all_goals first
    | exact Nat.lt_succ_of_lt (span?_rest_lt (by assumption))
    | exact Nat.lt_succ_self _

end BracketSpacing.Bracket
