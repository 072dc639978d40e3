import BracketSpacing.Bracket
import BracketSpacing.FixedPoint
import BracketSpacing.Proofs.Trimming

/-!
# One sweep of padding is enough

Texts are swept character by character. With their literals masked they are swept as if a literal were one letter, so
spans, spacing and sweeps are studied over any `Alphabet` of letters.

* A spaced interior starts with a blank, so no guard takes it for a character class: spacing twice is spacing once, with
  the guard only if both have it (`Alphabet.spaced_spaced_and`).
* A span is an interior without fences and a closing bracket (`Alphabet.eq_of_span?`, `Alphabet.span?_append_closing`);
  whether one starts here is decided by the first fence (`Alphabet.span?_eq_none_iff`).
* A sweep keeps the first fence, so it makes and breaks no spans, and two sweeps are one (`Alphabet.padAll_padAll_and`).
* `Bracket.padAll` is the sweep over characters (`Bracket.padAll_eq`), so a second one changes nothing
  (`Bracket.padAll_padAll`).
* Repeating such a step takes one pass that changes the text and one that does not (`settle_of_idempotent`).
-/

namespace BracketSpacing

open Text

/-- Letters that spans and their padding can be read in. -/
structure Alphabet (α : Type) where
  opening : α
  closing : α
  blank : α
  /-- What the interior of a span does not hold. -/
  isFence : α → Bool
  /-- What goes when an interior is trimmed. -/
  isTrimmable : α → Bool
  /-- What a character class may hold. -/
  isClassChar : α → Bool
  isFence_opening : isFence opening = true
  isFence_closing : isFence closing = true
  isFence_blank : isFence blank = false
  isTrimmable_blank : isTrimmable blank = true
  isClassChar_blank : isClassChar blank = false

namespace Alphabet

variable {α : Type} {A : Alphabet α} {guard : Bool} {s interior rest : List α} {x : α}

/-! ## Spaced interiors -/

/-- The interior without trimmable letters at its ends. -/
def trim (A : Alphabet α) (interior : List α) : List α :=
  strippedOf A.isTrimmable interior

/-- Whether an interior is a run of class characters. -/
def isClassLike (A : Alphabet α) (interior : List α) : Bool :=
  !interior.isEmpty && interior.all A.isClassChar

/-- Whether a span stays as it is. -/
def isKept (A : Alphabet α) (guard : Bool) (interior : List α) : Bool :=
  (A.trim interior).isEmpty || (guard && A.isClassLike interior)

/-- The interior of a span after padding. -/
def spaced (A : Alphabet α) (guard : Bool) (interior : List α) : List α :=
  if A.isKept guard interior then interior else A.blank :: (A.trim interior ++ [A.blank])

theorem isFence_of_mem_spaced (guard : Bool) (h : ∀ x ∈ interior, A.isFence x = false) :
    ∀ x ∈ A.spaced guard interior, A.isFence x = false := by
  intro x hx
  unfold spaced at hx
  split at hx
  · exact h x hx
  · rcases List.mem_cons.mp hx with rfl | hx
    · exact A.isFence_blank
    · rcases List.mem_append.mp hx with hx | hx
      · exact h x (mem_of_mem_strippedOf hx)
      · rw [List.mem_singleton.mp hx]
        exact A.isFence_blank

theorem trim_blanks (A : Alphabet α) (interior : List α) :
    A.trim (A.blank :: (A.trim interior ++ [A.blank])) = A.trim interior := by
  have hblank : ∀ x ∈ [A.blank], A.isTrimmable x = true := List.forall_mem_singleton.mpr A.isTrimmable_blank
  exact strippedOf_append hblank (solid_strippedOf A.isTrimmable interior) hblank

/-- Where a blank stands in front, there is no character class. -/
theorem isClassLike_blank (A : Alphabet α) (s : List α) : A.isClassLike (A.blank :: s) = false := by
  simp [isClassLike, A.isClassChar_blank]

/-- Spacing twice is spacing once, with the guard only if both have it. -/
theorem spaced_spaced_and (A : Alphabet α) (first second : Bool) (interior : List α) :
    A.spaced second (A.spaced first interior) = A.spaced (first && second) interior := by
  cases hk : A.isKept first interior with
  | true =>
    have hs : A.spaced first interior = interior := if_pos hk
    rw [hs]
    cases first with
    | true => rfl
    | false =>
      -- Without the guard an interior is kept only if it is blank, and then it is always kept.
      have hempty : (A.trim interior).isEmpty = true := by simpa [isKept] using hk
      simp [spaced, isKept, hempty]
  | false =>
    have hs : A.spaced first interior = A.blank :: (A.trim interior ++ [A.blank]) := if_neg (by simp [hk])
    rw [isKept, Bool.or_eq_false_iff] at hk
    have hsecond : A.isKept second (A.spaced first interior) = false := by
      rw [hs, isKept, trim_blanks, isClassLike_blank, hk.1]
      simp
    have hboth : A.isKept (first && second) interior = false := by
      rw [isKept, hk.1, Bool.and_right_comm, hk.2]
      rfl
    have hleft : A.spaced second (A.spaced first interior) = A.blank :: (A.trim interior ++ [A.blank]) := by
      rw [spaced, if_neg (by simp [hsecond]), hs, trim_blanks]
    rw [hleft, spaced, if_neg (by simp [hboth])]

/-- A map of texts keeps spacing if it keeps what decides on it and the blanks around a trimmed interior. -/
theorem spaced_image {β : Type} {B : Alphabet β} {f : List α → List β}
    (htrim : B.trim (f interior) = f (A.trim interior)) (hempty : f (A.trim interior) = [] ↔ A.trim interior = [])
    (hclass : B.isClassLike (f interior) = A.isClassLike interior)
    (hblank : f (A.blank :: (A.trim interior ++ [A.blank])) = B.blank :: (f (A.trim interior) ++ [B.blank])) :
    B.spaced guard (f interior) = f (A.spaced guard interior) := by
  have hkept : B.isKept guard (f interior) = A.isKept guard interior := by
    have hsame : (f (A.trim interior)).isEmpty = (A.trim interior).isEmpty := by
      rw [Bool.eq_iff_iff, List.isEmpty_iff, List.isEmpty_iff]
      exact hempty
    rw [isKept, isKept, htrim, hsame, hclass]
  rw [spaced, spaced, hkept]
  split
  · rfl
  · rw [htrim, hblank]

variable [DecidableEq α]

/-! ## Spans -/

/-- The interior and the rest after an opening bracket, if a span starts there. -/
def span? (A : Alphabet α) : List α → Option (List α × List α)
  | [] => none
  | x :: s =>
    if x = A.closing then some ([], s)
    else if A.isFence x then none
    else (A.span? s).map fun (interior, rest) => (x :: interior, rest)

theorem span?_closing (s : List α) : A.span? (A.closing :: s) = some ([], s) := by
  rw [span?, if_pos rfl]

theorem span?_cons_of_fence (hx : x ≠ A.closing) (hf : A.isFence x = true) (s : List α) : A.span? (x :: s) = none := by
  rw [span?, if_neg hx, if_pos hf]

theorem span?_cons_of_not_fence (hf : A.isFence x = false) (s : List α) :
    A.span? (x :: s) = (A.span? s).map fun (interior, rest) => (x :: interior, rest) := by
  have hx : x ≠ A.closing := by
    rintro rfl
    rw [A.isFence_closing] at hf
    cases hf
  rw [span?, if_neg hx, if_neg (by simp [hf])]

/-- Text without fences lies in the interior of every span it starts. -/
theorem span?_append : ∀ {u : List α}, (∀ x ∈ u, A.isFence x = false) → ∀ s,
    A.span? (u ++ s) = (A.span? s).map fun (interior, rest) => (u ++ interior, rest)
  | [], _, s => by simp
  | x :: u, h, s => by
    rw [List.cons_append, span?_cons_of_not_fence (h x List.mem_cons_self),
      span?_append (fun y hy => h y (List.mem_cons_of_mem _ hy)), Option.map_map]
    rfl

/-- An interior without fences and a closing bracket are a span. -/
theorem span?_append_closing (h : ∀ x ∈ interior, A.isFence x = false) (rest : List α) :
    A.span? (interior ++ A.closing :: rest) = some (interior, rest) := by
  rw [span?_append h, span?_closing]
  simp

/-- A span is an interior without fences, a closing bracket and the rest. -/
theorem eq_of_span? : ∀ {s interior : List α}, A.span? s = some (interior, rest) →
    s = interior ++ A.closing :: rest ∧ ∀ x ∈ interior, A.isFence x = false
  | [], _, h => by cases h
  | x :: s, interior, h => by
    by_cases hx : x = A.closing
    · subst hx
      rw [span?_closing] at h
      cases h
      exact ⟨rfl, by simp⟩
    · cases hf : A.isFence x with
      | true => rw [span?_cons_of_fence hx hf] at h; cases h
      | false =>
        rw [span?_cons_of_not_fence hf] at h
        obtain ⟨⟨i, r⟩, hs, he⟩ := Option.map_eq_some_iff.mp h
        cases he
        obtain ⟨rfl, hi⟩ := eq_of_span? hs
        refine ⟨rfl, fun y hy => ?_⟩
        rcases List.mem_cons.mp hy with rfl | hy
        · exact hf
        · exact hi y hy

theorem span?_rest_lt (h : A.span? s = some (interior, rest)) : rest.length < s.length := by
  obtain ⟨rfl, -⟩ := eq_of_span? h
  simp only [List.length_append, List.length_cons]
  omega

/-- No span starts where the first fence is no closing bracket. -/
theorem span?_eq_none_iff : A.span? s = none ↔ s.find? A.isFence ≠ some A.closing := by
  induction s with
  | nil => simp [span?]
  | cons x s ih =>
    by_cases hx : x = A.closing
    · subst hx
      simp [span?_closing, A.isFence_closing]
    · cases hf : A.isFence x with
      | true => simp [span?_cons_of_fence hx hf, hf, hx]
      | false => simp [span?_cons_of_not_fence hf, hf, ih]

/-! ## Sweeps -/

/-- The text with all its spans padded, in one sweep. -/
def padAll (A : Alphabet α) (guard : Bool) : List α → List α
  | [] => []
  | x :: s =>
    if x = A.opening then
      match _h : A.span? s with
      | some (interior, rest) => A.opening :: (A.spaced guard interior ++ A.closing :: A.padAll guard rest)
      | none => x :: A.padAll guard s
    else x :: A.padAll guard s
termination_by s => s.length
decreasing_by
  all_goals first
    | exact Nat.lt_succ_of_lt (span?_rest_lt (by assumption))
    | exact Nat.lt_succ_self _

theorem padAll_cons_of_ne (hx : x ≠ A.opening) (s : List α) : A.padAll guard (x :: s) = x :: A.padAll guard s := by
  rw [padAll, if_neg hx]

theorem padAll_opening_of_none (h : A.span? s = none) :
    A.padAll guard (A.opening :: s) = A.opening :: A.padAll guard s := by
  rw [padAll, if_pos rfl]
  split
  · rename_i h'
    rw [h] at h'
    cases h'
  · rfl

theorem padAll_opening_of_some (h : A.span? s = some (interior, rest)) :
    A.padAll guard (A.opening :: s) = A.opening :: (A.spaced guard interior ++ A.closing :: A.padAll guard rest) := by
  rw [padAll, if_pos rfl]
  split
  · rename_i h'
    rw [h] at h'
    cases h'
    rfl
  · rename_i h'
    rw [h] at h'
    cases h'

/-- Text without opening brackets is swept over. -/
theorem padAll_append : ∀ {u : List α}, (∀ x ∈ u, x ≠ A.opening) → ∀ s,
    A.padAll guard (u ++ s) = u ++ A.padAll guard s
  | [], _, _ => rfl
  | x :: u, h, s => by
    rw [List.cons_append, padAll_cons_of_ne (h x List.mem_cons_self),
      padAll_append (fun y hy => h y (List.mem_cons_of_mem _ hy))]
    rfl

/-- A span is padded in one piece. -/
theorem padAll_span (h : ∀ x ∈ interior, A.isFence x = false) (rest : List α) :
    A.padAll guard (A.opening :: (interior ++ A.closing :: rest)) =
      A.opening :: (A.spaced guard interior ++ A.closing :: A.padAll guard rest) :=
  padAll_opening_of_some (span?_append_closing h rest)

/-- A sweep keeps the first fence. -/
theorem find?_isFence_padAll (A : Alphabet α) (guard : Bool) : ∀ s : List α,
    (A.padAll guard s).find? A.isFence = s.find? A.isFence
  | [] => by rw [padAll]
  | x :: s => by
    by_cases hx : x = A.opening
    · subst hx
      cases hs : A.span? s with
      | none => simp [padAll_opening_of_none hs, A.isFence_opening]
      | some r => simp [padAll_opening_of_some hs, A.isFence_opening]
    · rw [padAll_cons_of_ne hx, List.find?_cons, List.find?_cons, find?_isFence_padAll A guard s]

/-- Two sweeps are one, with the guard only if both have it. -/
theorem padAll_padAll_and (A : Alphabet α) (first second : Bool) (s : List α) :
    A.padAll second (A.padAll first s) = A.padAll (first && second) s := by
  fun_induction padAll A first s with
  | case1 => rw [padAll, padAll]
  | case2 s interior rest h ih =>
    obtain ⟨-, hi⟩ := eq_of_span? h
    rw [padAll_opening_of_some h, padAll_span (isFence_of_mem_spaced first hi), spaced_spaced_and, ih]
  | case3 s h ih =>
    -- The swept rest has the same first fence, so no span starts at this bracket in it either.
    have hn : A.span? (A.padAll first s) = none := by
      rw [span?_eq_none_iff, find?_isFence_padAll]
      exact span?_eq_none_iff.mp h
    rw [padAll_opening_of_none hn, padAll_opening_of_none h, ih]
  | case4 x s hx ih => rw [padAll_cons_of_ne hx, padAll_cons_of_ne hx, ih]

end Alphabet

/-! ## The alphabet of characters -/

namespace Bracket

/-- A bracket or a line break. -/
def isFence (c : Char) : Bool :=
  c == '[' || c == ']' || c == '\n' || c == '\r'

/-- Characters, in which texts are swept. -/
@[reducible] def alphabet : Alphabet Char where
  opening := '['
  closing := ']'
  blank := ' '
  isFence := isFence
  isTrimmable := Text.isTrimmable
  isClassChar := isClassChar
  isFence_opening := rfl
  isFence_closing := rfl
  isFence_blank := by decide
  isTrimmable_blank := rfl
  isClassChar_blank := by decide

theorem span?_eq_alphabet (s : List Char) : span? s = alphabet.span? s := by
  induction s with
  | nil => rfl
  | cons c s ih =>
    rw [span?, Alphabet.span?, ih]
    by_cases hc : c = ']'
    · rw [if_pos hc, if_pos hc]
    · have hfence : c = '[' ∨ c = '\r' ∨ c = '\n' ↔ isFence c = true := by
        simp only [isFence, Bool.or_eq_true, beq_iff_eq]
        tauto
      rw [if_neg hc, if_neg hc]
      simp only [hfence]

theorem trim_eq (s : List Char) : trim s = alphabet.trim s :=
  trim_eq_strippedOf s

theorem isKept_eq (guard : Bool) (interior : List Char) : isKept guard interior = alphabet.isKept guard interior := by
  rw [isKept, trim_eq]
  rfl

theorem padded_eq (guard : Bool) (interior : List Char) :
    padded guard interior = '[' :: (alphabet.spaced guard interior ++ [']']) := by
  rw [padded, Alphabet.spaced, isKept_eq, trim_eq]
  split <;> simp

/-- The sweep over a text is the sweep in the alphabet of characters. -/
theorem padAll_eq (guard : Bool) (s : List Char) : padAll guard s = alphabet.padAll guard s := by
  fun_induction padAll guard s with
  | case1 => rw [Alphabet.padAll]
  | case2 s interior rest h ih =>
    rw [span?_eq_alphabet] at h
    rw [Alphabet.padAll_opening_of_some h, padded_eq, ih]
    simp
  | case3 s h ih =>
    rw [span?_eq_alphabet] at h
    rw [Alphabet.padAll_opening_of_none h, ih]
  | case4 c s hc ih => rw [Alphabet.padAll_cons_of_ne hc, ih]

/-- A second sweep changes nothing. -/
theorem padAll_padAll (guard : Bool) (s : List Char) : padAll guard (padAll guard s) = padAll guard s := by
  rw [padAll_eq, padAll_eq, Alphabet.padAll_padAll_and, Bool.and_self]

end Bracket

/-! ## Repeated sweeps -/

variable {step : List Char → List Char} {text : List Char} {limit : Nat}

theorem settle_of_fixed (h : step text = text) (hl : 1 ≤ limit) : settle step limit text = ⟨text, 1, true⟩ := by
  obtain ⟨n, rfl⟩ := Nat.exists_eq_add_of_le' hl
  rw [settle, settleFrom, if_pos h]

/-- An idempotent step settles in one pass and is seen to settle by the second. -/
theorem settle_of_idempotent (h : step (step text) = step text) (hne : step text ≠ text) (hl : 1 ≤ limit) :
    settle step limit text = ⟨step text, min limit 2, decide (2 ≤ limit)⟩ := by
  obtain ⟨n, rfl⟩ := Nat.exists_eq_add_of_le' hl
  rw [settle, settleFrom, if_neg hne]
  cases n with
  | zero => rfl
  | succ n =>
    rw [settleFrom, if_pos h]
    have hpasses : min (n + 1 + 1) 2 = 2 := by omega
    have hconverged : decide (2 ≤ n + 1 + 1) = true := decide_eq_true (by omega)
    rw [hpasses, hconverged]

theorem settle_text_of_idempotent (h : step (step text) = step text) (hl : 1 ≤ limit) :
    (settle step limit text).text = step text := by
  by_cases hs : step text = text
  · rw [settle_of_fixed hs hl, hs]
  · rw [settle_of_idempotent h hs hl]

end BracketSpacing
