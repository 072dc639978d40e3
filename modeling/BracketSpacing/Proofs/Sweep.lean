import BracketSpacing.Proofs.Padding
import BracketSpacing.Proofs.Respacing
import BracketSpacing.Placeholder

/-!
# Sweeps over pieces

* `Piece.alphabet`: pieces as letters. A literal is opaque: it is never trimmed and no character class holds it. One
  that spans lines is a fence; with `through` unset every literal is.
* A sweep only changes slack inside brackets (`respaced_padAll`).
* On code alone it is the sweep over characters (`padAll_codes_append`).
-/

namespace BracketSpacing.Piece

open Text Alphabet

variable {guard through : Bool} {p interior rest : List Piece} {x : Piece}

/-! ## The alphabet of pieces -/

/-- What the interior of a span does not hold: brackets and line breaks in code, and literals that span lines. Spans
that are not to go through literals hold no literal at all. -/
def isFence (through : Bool) : Piece → Bool
  | code c => Bracket.isFence c
  | literal s => !through || Placeholder.hasLineBreak s

/-- Code that may go when an interior is trimmed. Literals stay. -/
def isTrimmable : Piece → Bool
  | code c => Text.isTrimmable c
  | literal _ => false

/-- Code that a character class may hold. -/
def isClassChar : Piece → Bool
  | code c => Bracket.isClassChar c
  | literal _ => false

/-- Pieces, in which a text is swept with its literals masked or apart. -/
@[reducible] def alphabet (through : Bool) : Alphabet Piece where
  opening := code '['
  closing := code ']'
  blank := code ' '
  isFence := isFence through
  isTrimmable := isTrimmable
  isClassChar := isClassChar
  isFence_opening := rfl
  isFence_closing := rfl
  isFence_blank := Bracket.alphabet.isFence_blank
  isTrimmable_blank := rfl
  isClassChar_blank := Bracket.alphabet.isClassChar_blank

/-! ## Sweeps change slack only -/

/-- Pieces of trimmable code are trimmable characters. -/
theorem exists_codes : ∀ {a : List Piece}, (∀ x ∈ a, isTrimmable x = true) →
    ∃ s, a = codes s ∧ ∀ c ∈ s, Text.isTrimmable c = true
  | [], _ => ⟨[], rfl, by simp⟩
  | literal s :: a, h => absurd (h _ List.mem_cons_self) (by simp [isTrimmable])
  | code c :: a, h => by
    obtain ⟨s, rfl, hs⟩ := exists_codes fun x hx => h x (List.mem_cons_of_mem _ hx)
    refine ⟨c :: s, rfl, fun d hd => ?_⟩
    rcases List.mem_cons.mp hd with rfl | hd
    · exact h (code d) List.mem_cons_self
    · exact hs d hd

/-- An interior is its trimmed part between two runs of trimmable characters. -/
theorem exists_trim (through : Bool) (interior : List Piece) :
    ∃ a b, interior = codes a ++ (alphabet through).trim interior ++ codes b ∧
      (∀ c ∈ a, Text.isTrimmable c = true) ∧ ∀ c ∈ b, Text.isTrimmable c = true := by
  obtain ⟨l, r, he, hl, hr⟩ := exists_strippedOf isTrimmable interior
  obtain ⟨a, rfl, ha⟩ := exists_codes hl
  obtain ⟨b, rfl, hb⟩ := exists_codes hr
  exact ⟨a, b, he, ha, hb⟩

theorem mem_codes {c : Char} {s : List Char} (h : c ∈ s) : code c ∈ codes s :=
  List.mem_map_of_mem h

/-- Trimmable code that is no fence is slack. -/
theorem isSlack_of_not_isFence {c : Char} (ht : Text.isTrimmable c = true) (hf : (code c).isFence through = false) :
    isSlack c = true := by
  simp only [isFence, Bracket.isFence, Bool.or_eq_false_iff, beq_eq_false_iff_ne] at hf
  simp [isSlack, ht, hf.1.2, hf.2]

/-- A span is padded by exchanging slack. -/
theorem respaced_span (guard : Bool) {q : List Piece} (hi : ∀ x ∈ interior, x.isFence through = false)
    (h : Respaced rest q) :
    Respaced (code '[' :: (interior ++ code ']' :: rest))
      (code '[' :: ((alphabet through).spaced guard interior ++ code ']' :: q)) := by
  have hclosing : Respaced (code ']' :: rest) (code ']' :: q) := .cons _ h
  unfold spaced
  split
  · exact .cons _ (hclosing.append_left interior)
  · obtain ⟨a, b, he, ha, hb⟩ := exists_trim through interior
    have ha' : ∀ c ∈ a, isSlack c = true := fun c hc =>
      isSlack_of_not_isFence (ha c hc) (hi _ (by rw [he]; simp [mem_codes hc]))
    have hb' : ∀ c ∈ b, isSlack c = true := fun c hc =>
      isSlack_of_not_isFence (hb c hc) (hi _ (by rw [he]; simp [mem_codes hc]))
    have hblank : ∀ c ∈ [' '], isSlack c = true := List.forall_mem_singleton.mpr rfl
    have hend : Respaced (codes b ++ code ']' :: rest) (codes [' '] ++ code ']' :: q) := .closing hb' hblank h
    have hspan := Respaced.opening ha' hblank (hend.append_left ((alphabet through).trim interior))
    have hleft : interior ++ code ']' :: rest =
        codes a ++ ((alphabet through).trim interior ++ (codes b ++ code ']' :: rest)) := by
      rw [← List.append_assoc, ← List.append_assoc, ← he]
    rw [hleft]
    simpa using hspan

/-- A sweep exchanges slack inside brackets and nothing else. -/
theorem respaced_padAll (guard through : Bool) (p : List Piece) : Respaced p ((alphabet through).padAll guard p) := by
  fun_induction (alphabet through).padAll guard p with
  | case1 => exact .nil
  | case2 p interior rest h ih =>
    obtain ⟨rfl, hi⟩ := eq_of_span? h
    exact respaced_span guard hi ih
  | case3 p h ih => exact .cons _ ih
  | case4 x p hx ih => exact .cons _ ih

/-! ## Sweeps over code -/

/-- In front of a literal that no span goes through, and at the end, spans are found in the code alone. -/
theorem span?_codes_append (hrest : ∀ x ∈ rest.head?, x.isFence through = true ∧ x ≠ code ']') : ∀ s : List Char,
    (alphabet through).span? (codes s ++ rest) =
      (Bracket.alphabet.span? s).map fun (i, r) => (codes i, codes r ++ rest)
  | [] => by
    cases rest with
    | nil => rfl
    | cons x rest => exact span?_cons_of_fence (hrest x rfl).2 (hrest x rfl).1 _
  | c :: s => by
    rw [codes_cons, List.cons_append]
    by_cases hc : c = ']'
    · subst hc
      have hspan : Bracket.alphabet.span? (']' :: s) = some ([], s) := span?_closing s
      rw [hspan]
      exact span?_closing _
    · cases hf : Bracket.isFence c with
      | true =>
        rw [span?_cons_of_fence (by simpa using hc) hf, span?_cons_of_fence hc hf]
        rfl
      | false =>
        rw [span?_cons_of_not_fence hf, span?_cons_of_not_fence hf, span?_codes_append hrest s, Option.map_map,
          Option.map_map]
        rfl

theorem trim_codes (through : Bool) (s : List Char) :
    (alphabet through).trim (codes s) = codes (Bracket.alphabet.trim s) :=
  strippedOf_map isTrimmable code s

theorem spaced_codes (guard through : Bool) (s : List Char) :
    (alphabet through).spaced guard (codes s) = codes (Bracket.alphabet.spaced guard s) := by
  have hclass : (alphabet through).isClassLike (codes s) = Bracket.alphabet.isClassLike s := by
    rw [isClassLike, isClassLike, codes, List.all_map, List.isEmpty_map]
    rfl
  exact spaced_image (trim_codes through s) List.map_eq_nil_iff hclass (by simp [codes])

/-- Code in front of a literal that no span goes through, and at the end, is swept by itself. -/
theorem padAll_codes_append (hrest : ∀ x ∈ rest.head?, x.isFence through = true ∧ x ≠ code ']') (s : List Char) :
    (alphabet through).padAll guard (codes s ++ rest) =
      codes (Bracket.padAll guard s) ++ (alphabet through).padAll guard rest := by
  rw [Bracket.padAll_eq]
  fun_induction Bracket.alphabet.padAll guard s with
  | case1 => rfl
  | case2 s interior rest' h ih =>
    have hspan : (alphabet through).span? (codes s ++ rest) = some (codes interior, codes rest' ++ rest) := by
      rw [span?_codes_append hrest, h]
      rfl
    rw [codes_cons, List.cons_append, padAll_opening_of_some hspan, ih, spaced_codes]
    simp [codes]
  | case3 s h ih =>
    have hspan : (alphabet through).span? (codes s ++ rest) = none := by
      rw [span?_codes_append hrest, h]
      rfl
    rw [codes_cons, List.cons_append, padAll_opening_of_none hspan, ih]
    rfl
  | case4 c s hc ih =>
    rw [codes_cons, List.cons_append, padAll_cons_of_ne (by simpa using hc), ih]
    rfl

/-- Code alone is swept character by character. -/
theorem padAll_codes (guard through : Bool) (s : List Char) :
    (alphabet through).padAll guard (codes s) = codes (Bracket.padAll guard s) := by
  have hnil : ∀ x ∈ ([] : List Piece).head?, x.isFence through = true ∧ x ≠ code ']' := by simp
  have h : (alphabet through).padAll guard (codes s ++ []) =
      codes (Bracket.padAll guard s) ++ (alphabet through).padAll guard [] := padAll_codes_append hnil s
  rwa [padAll, List.append_nil, List.append_nil] at h

end BracketSpacing.Piece
