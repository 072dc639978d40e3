import BracketSpacing.Proofs.Sweep

/-!
# Marks for literals

* `masked k pieces`: the pieces with a mark in place of each literal, numbered from `k` on.
* A mark is read back where it stands (`read?_append`), so putting the literals back gives the text of the pieces
  (`restore_masked`), provided that the code has no mark characters of its own.
* A sweep over the masked text is the masked sweep over the pieces (`padAll_masked`): marks are never cut, moved to
  another place, or taken for blanks or for members of a character class.
-/

namespace BracketSpacing.Piece

open Text Placeholder
open Alphabet hiding opening closing trim

variable {guard : Bool} {p interior rest : List Piece} {k : Nat}

/-- The literals among the pieces, in order. -/
def literals : List Piece → List (List Char)
  | [] => []
  | code _ :: p => literals p
  | literal s :: p => s :: literals p

/-- The pieces with marks for literals, numbered from `k` on. -/
def masked (k : Nat) : List Piece → List Char
  | [] => []
  | code c :: p => c :: masked k p
  | literal s :: p => Mark.text ⟨k, hasLineBreak s⟩ ++ masked (k + 1) p

theorem literals_append : ∀ p q : List Piece, literals (p ++ q) = literals p ++ literals q
  | [], _ => rfl
  | code _ :: p, q => literals_append p q
  | literal s :: p, q => congrArg (s :: ·) (literals_append p q)

theorem literals_codes : ∀ s : List Char, literals (codes s) = []
  | [] => rfl
  | _ :: s => literals_codes s

theorem literals_ofSegments : ∀ segments : List Segment,
    literals (ofSegments segments) = Placeholder.literals segments
  | [] => rfl
  | ⟨.code, s⟩ :: segments => by
    rw [ofSegments, literals_append, literals_codes, literals_ofSegments segments]
    rfl
  | ⟨.literal, s⟩ :: segments => congrArg (s :: ·) (literals_ofSegments segments)

theorem masked_append : ∀ (p q : List Piece) (k : Nat),
    masked k (p ++ q) = masked k p ++ masked (k + (literals p).length) q
  | [], _, _ => rfl
  | code c :: p, q, k => congrArg (c :: ·) (masked_append p q k)
  | literal s :: p, q, k => by
    rw [List.cons_append, masked, masked, masked_append p q (k + 1), List.append_assoc, literals, List.length_cons,
      Nat.add_right_comm, Nat.add_assoc]

theorem masked_codes : ∀ (s : List Char) (k : Nat), masked k (codes s) = s
  | [], _ => rfl
  | c :: s, k => congrArg (c :: ·) (masked_codes s k)

/-- Masking segments is masking their pieces. -/
theorem maskFrom_eq_masked : ∀ (segments : List Segment) (k : Nat),
    maskFrom k segments = masked k (ofSegments segments)
  | [], _ => rfl
  | ⟨.code, s⟩ :: segments, k => by
    rw [maskFrom, ofSegments, masked_append, masked_codes, literals_codes, maskFrom_eq_masked segments k]
    rfl
  | ⟨.literal, s⟩ :: segments, k => by
    rw [maskFrom, ofSegments, masked, maskFrom_eq_masked segments (k + 1)]

/-! ## Reading marks -/

theorem isDigit_of_mem_toDigits (n : Nat) : ∀ c ∈ Nat.toDigits 10 n, c.isDigit = true := fun _ hc =>
  Nat.isDigit_of_mem_toDigits (by decide) (by decide) hc

/-- A mark is read back where it stands. -/
theorem read?_append (m : Mark) (s : List Char) : Mark.read? (m.text ++ s) = some (m, s) := by
  obtain ⟨n, spans⟩ := m
  have hdigits : ∀ c ∈ Nat.toDigits 10 n, Text.isDecimalDigit c = true := fun c hc =>
    Text.isDecimalDigit_of_isDigit (isDigit_of_mem_toDigits n c hc)
  have hnumber : Text.ofDecimalDigits (Nat.toDigits 10 n) = n :=
    (Text.ofDecimalDigits_eq_ofDigitChars (isDigit_of_mem_toDigits n)).trans Nat.ofDigitChars_ten_toDigits
  have hne : Nat.toDigits 10 n ≠ [] := Nat.toDigits_ne_nil
  have htext : ∀ tail : List Char, (∀ c ∈ tail.head?, Text.isDecimalDigit c = false) →
      (Nat.toDigits 10 n ++ tail).takeWhile Text.isDecimalDigit = Nat.toDigits 10 n ∧
        (Nat.toDigits 10 n ++ tail).dropWhile Text.isDecimalDigit = tail := by
    intro tail ht
    rw [List.takeWhile_append_of_pos hdigits, List.dropWhile_append_of_pos hdigits, takeWhile_eq_nil_of_head? ht,
      dropWhile_eq_self_of_head? ht, List.append_nil]
    exact ⟨rfl, rfl⟩
  cases spans with
  | true =>
    obtain ⟨h1, h2⟩ := htext ('\n' :: closing :: s) (by rintro c ⟨⟩; decide)
    have he : Mark.text ⟨n, true⟩ ++ s = opening :: (Nat.toDigits 10 n ++ '\n' :: closing :: s) := by
      simp [Mark.text]
    rw [he, Mark.read?, h1, h2, if_neg (by simp [hne])]
    simp [hnumber]
  | false =>
    obtain ⟨h1, h2⟩ := htext (closing :: s) (by rintro c ⟨⟩; decide)
    have he : Mark.text ⟨n, false⟩ ++ s = opening :: (Nat.toDigits 10 n ++ closing :: s) := by
      simp [Mark.text]
    rw [he, Mark.read?, h1, h2, if_neg (by simp [hne])]
    show (if closing = closing then some (Mark.mk (Text.ofDecimalDigits (Nat.toDigits 10 n)) false, s) else none) = _
    rw [if_pos rfl, hnumber]

theorem restore_mark (table : Array (List Char)) (m : Mark) (s : List Char) :
    restore table (m.text ++ s) = table[m.number]?.getD [] ++ restore table s := by
  have h := read?_append m s
  rw [Mark.text, List.cons_append] at h ⊢
  rw [restore]
  split
  · rename_i h'
    rw [h] at h'
    cases h'
    rfl
  · rename_i h'
    rw [h] at h'
    cases h'

theorem restore_cons_of_ne {c : Char} (hc : c ≠ opening) (table : Array (List Char)) (s : List Char) :
    restore table (c :: s) = c :: restore table s := by
  have h : Mark.read? (c :: s) = none := by
    rw [Mark.read?, if_pos (Or.inl hc)]
  rw [restore]
  split
  · rename_i h'
    rw [h] at h'
    cases h'
  · rfl

/-- Putting the literals back gives the text, if no code looks like the start of a mark. -/
theorem restore_masked (table : Array (List Char)) : ∀ (p : List Piece) (k : Nat),
    (∀ c, code c ∈ p → c ≠ opening) → (∀ i s, (literals p)[i]? = some s → table[k + i]? = some s) →
      restore table (masked k p) = joined p
  | [], _, _, _ => by rw [masked, restore]; rfl
  | code c :: p, k, hcode, htable => by
    rw [masked, restore_cons_of_ne (hcode c List.mem_cons_self), joined_code,
      restore_masked table p k (fun d hd => hcode d (List.mem_cons_of_mem _ hd)) htable]
  | literal s :: p, k, hcode, htable => by
    have hhead : table[k]? = some s := htable 0 s rfl
    have htail : ∀ i t, (literals p)[i]? = some t → table[k + 1 + i]? = some t := by
      intro i t ht
      rw [Nat.add_right_comm, Nat.add_assoc]
      exact htable (i + 1) t ht
    rw [masked, restore_mark, hhead, joined_literal,
      restore_masked table p (k + 1) (fun d hd => hcode d (List.mem_cons_of_mem _ hd)) htail]
    rfl

/-! ## Sweeping over marks -/

theorem not_isFence_of_isDigit {c : Char} (hc : c.isDigit = true) : Bracket.isFence c = false := by
  cases hf : Bracket.isFence c with
  | false => rfl
  | true =>
    simp only [Bracket.isFence, Bool.or_eq_true, beq_iff_eq] at hf
    rcases hf with ((rfl | rfl) | rfl) | rfl <;> revert hc <;> decide

theorem not_isFence_of_mem_front (n : Nat) : ∀ c ∈ opening :: Nat.toDigits 10 n, Bracket.isFence c = false := by
  intro c hc
  rcases List.mem_cons.mp hc with rfl | hc
  · decide
  · exact not_isFence_of_isDigit (isDigit_of_mem_toDigits n c hc)

theorem mark_text_true (n : Nat) : Mark.text ⟨n, true⟩ = (opening :: Nat.toDigits 10 n) ++ ['\n', closing] := by
  simp [Mark.text]

theorem mark_text_false (n : Nat) : Mark.text ⟨n, false⟩ = (opening :: Nat.toDigits 10 n) ++ [closing] := by
  simp [Mark.text]

theorem ne_bracket_of_mem_mark (m : Mark) : ∀ c ∈ m.text, c ≠ '[' ∧ c ≠ ']' := by
  obtain ⟨n, spans⟩ := m
  have hfront : ∀ c ∈ opening :: Nat.toDigits 10 n, c ≠ '[' ∧ c ≠ ']' := by
    intro c hc
    have hf := not_isFence_of_mem_front n c hc
    constructor
    · rintro rfl
      exact absurd hf (by decide)
    · rintro rfl
      exact absurd hf (by decide)
  intro c hc
  cases spans with
  | true =>
    rw [mark_text_true] at hc
    rcases List.mem_append.mp hc with hc | hc
    · exact hfront c hc
    · simp only [List.mem_cons, List.not_mem_nil, or_false] at hc
      rcases hc with rfl | rfl <;> decide
  | false =>
    rw [mark_text_false] at hc
    rcases List.mem_append.mp hc with hc | hc
    · exact hfront c hc
    · rw [List.mem_singleton.mp hc]
      decide

/-- A bracket in a masked text stands for a bracket in the code. -/
theorem exists_of_masked_eq {b : Char} (hb : b = '[' ∨ b = ']') : ∀ {p : List Piece} {k : Nat} {u v : List Char},
    masked k p = u ++ b :: v →
      ∃ front back, p = front ++ code b :: back ∧ u = masked k front ∧ v = masked (k + (literals front).length) back
  | [], _, u, v, h => by
    have hlen := congrArg List.length h
    simp [masked] at hlen
  | code c :: p, k, u, v, h => by
    rw [masked] at h
    cases u with
    | nil =>
      obtain ⟨rfl, rfl⟩ := List.cons.inj h
      exact ⟨[], p, rfl, rfl, rfl⟩
    | cons d u =>
      obtain ⟨rfl, hrest⟩ := List.cons.inj h
      obtain ⟨front, back, rfl, rfl, rfl⟩ := exists_of_masked_eq hb hrest
      exact ⟨code c :: front, back, rfl, rfl, rfl⟩
  | literal s :: p, k, u, v, h => by
    -- The bracket stands after the mark, since no mark holds one.
    have hafter : ∃ w, u = Mark.text ⟨k, hasLineBreak s⟩ ++ w ∧ masked (k + 1) p = w ++ b :: v := by
      rw [masked, List.append_eq_append_iff] at h
      rcases h with ⟨w, hu, hw⟩ | ⟨w, hm, hw⟩
      · exact ⟨w, hu, hw⟩
      · cases w with
        | nil => exact ⟨[], by rw [hm, List.append_nil, List.append_nil], by rw [hw]; rfl⟩
        | cons d w =>
          obtain ⟨rfl, -⟩ := List.cons.inj hw
          have hmem : b ∈ Mark.text ⟨k, hasLineBreak s⟩ := by rw [hm]; simp
          have hne := ne_bracket_of_mem_mark _ b hmem
          rcases hb with rfl | rfl
          · exact absurd rfl hne.1
          · exact absurd rfl hne.2
    obtain ⟨w, rfl, hw⟩ := hafter
    obtain ⟨front, back, rfl, rfl, rfl⟩ := exists_of_masked_eq hb hw
    refine ⟨literal s :: front, back, rfl, rfl, ?_⟩
    rw [literals, List.length_cons, Nat.add_right_comm, Nat.add_assoc]

/-- No span goes through the mark of a literal that spans lines. -/
theorem span?_mark_true (n : Nat) (s : List Char) : Bracket.alphabet.span? (Mark.text ⟨n, true⟩ ++ s) = none := by
  rw [mark_text_true, List.append_assoc, span?_append (not_isFence_of_mem_front n), List.cons_append,
    span?_cons_of_fence (by decide) (by decide)]
  rfl

/-- The mark of a literal on one line may lie in a span. -/
theorem span?_mark_false (n : Nat) (s : List Char) : Bracket.alphabet.span? (Mark.text ⟨n, false⟩ ++ s) =
    (Bracket.alphabet.span? s).map fun (interior, rest) => (Mark.text ⟨n, false⟩ ++ interior, rest) := by
  refine span?_append (fun c hc => ?_) s
  rw [mark_text_false] at hc
  rcases List.mem_append.mp hc with hc | hc
  · exact not_isFence_of_mem_front n c hc
  · rw [List.mem_singleton.mp hc]
    decide

/-- The spans of a masked text are the masked spans of its pieces. -/
theorem span?_masked : ∀ (p : List Piece) (k : Nat), Bracket.alphabet.span? (masked k p) =
    ((alphabet true).span? p).map fun (interior, rest) =>
      (masked k interior, masked (k + (literals interior).length) rest)
  | [], _ => rfl
  | code c :: p, k => by
    by_cases hc : c = ']'
    · subst hc
      have hspan : (alphabet true).span? (code ']' :: p) = some ([], p) := span?_closing p
      rw [hspan]
      exact span?_closing _
    · rw [masked]
      cases hf : Bracket.isFence c with
      | true =>
        rw [span?_cons_of_fence hc hf, span?_cons_of_fence (by simpa using hc) hf]
        rfl
      | false =>
        rw [span?_cons_of_not_fence hf, span?_cons_of_not_fence hf, span?_masked p k, Option.map_map, Option.map_map]
        rfl
  | literal s :: p, k => by
    rw [masked]
    cases hs : hasLineBreak s with
    | true =>
      rw [span?_mark_true, span?_cons_of_fence (by simp) (by simp [isFence, hs])]
      rfl
    | false =>
      rw [span?_mark_false, span?_cons_of_not_fence (by simp [isFence, hs]), span?_masked p (k + 1), Option.map_map,
        Option.map_map]
      congr 1
      funext span
      obtain ⟨interior, rest⟩ := span
      show (Mark.text ⟨k, false⟩ ++ masked (k + 1) interior, masked (k + 1 + (literals interior).length) rest) =
        (masked k (literal s :: interior), masked (k + ((literals interior).length + 1)) rest)
      rw [masked, hs, Nat.add_right_comm, Nat.add_assoc]

/-! ## Spacing masked interiors -/

theorem head?_mark (m : Mark) (s : List Char) : (m.text ++ s).head? = some opening := rfl

theorem getLast?_mark (m : Mark) : m.text.getLast? = some closing := by
  obtain ⟨n, spans⟩ := m
  cases spans with
  | true => rw [mark_text_true, List.getLast?_append]; rfl
  | false => rw [mark_text_false, List.getLast?_append]; rfl

/-- Marks are no blanks: a trimmed list of pieces is trimmed in its masked form. -/
theorem solid_masked (h : Solid isTrimmable p) (k : Nat) : Solid Text.isTrimmable (masked k p) := by
  constructor
  · intro c hc
    match p, h, hc with
    | code d :: p, h, hc =>
      cases hc
      exact h.1 (code c) rfl
    | literal s :: p, _, hc =>
      rw [masked, head?_mark] at hc
      cases hc
      decide
  · intro c hc
    cases p using List.reverseRecOn with
    | nil => cases hc
    | append_singleton p x =>
      rw [masked_append] at hc
      cases x with
      | code d =>
        rw [masked, masked, List.getLast?_concat] at hc
        cases hc
        exact h.2 (code c) (by rw [List.getLast?_concat]; rfl)
      | literal s =>
        rw [masked, masked, List.append_nil, List.getLast?_append, getLast?_mark] at hc
        cases hc
        decide

theorem trim_masked (interior : List Piece) (k : Nat) :
    Text.trim (masked k interior) = masked k ((alphabet true).trim interior) := by
  obtain ⟨a, b, he, ha, hb⟩ := exists_trim true interior
  have hm : masked k interior = a ++ masked k ((alphabet true).trim interior) ++ b := by
    rw [he, masked_append, masked_append, masked_codes, masked_codes, literals_codes, ← he]
    rfl
  have hsolid : Solid Text.isTrimmable (masked k ((alphabet true).trim interior)) :=
    solid_masked (solid_strippedOf _ _) k
  rw [hm, trim_append ha hsolid hb]

theorem masked_eq_nil_iff : ∀ {p : List Piece}, masked k p = [] ↔ p = []
  | [] => by simp [masked]
  | code _ :: _ => by simp [masked]
  | literal _ :: _ => by simp [masked, Mark.text]

theorem all_isClassChar_masked : ∀ (p : List Piece) (k : Nat),
    (masked k p).all Bracket.isClassChar = p.all isClassChar
  | [], _ => rfl
  | code c :: p, k => by
    rw [masked, List.all_cons, List.all_cons, all_isClassChar_masked p k]
    rfl
  | literal s :: p, k => by
    have h : Bracket.isClassChar opening = false := by decide
    rw [masked, Mark.text, List.cons_append, List.all_cons, h, List.all_cons]
    rfl

theorem isClassLike_masked (interior : List Piece) (k : Nat) :
    Bracket.isClassLike (masked k interior) = (alphabet true).isClassLike interior := by
  have hempty : (masked k interior).isEmpty = interior.isEmpty := by
    rw [Bool.eq_iff_iff, List.isEmpty_iff, List.isEmpty_iff]
    exact masked_eq_nil_iff
  rw [Bracket.isClassLike, isClassLike, hempty, all_isClassChar_masked]

theorem literals_trim (through : Bool) (interior : List Piece) :
    literals ((alphabet through).trim interior) = literals interior := by
  obtain ⟨a, b, he, -, -⟩ := exists_trim through interior
  conv_rhs => rw [he]
  rw [literals_append, literals_append, literals_codes, literals_codes, List.nil_append, List.append_nil]

theorem literals_spaced (guard through : Bool) (interior : List Piece) :
    literals ((alphabet through).spaced guard interior) = literals interior := by
  unfold spaced
  split
  · rfl
  · rw [literals, literals_append, literals_trim]
    exact List.append_nil _

/-- Spacing a masked interior is masking a spaced one. -/
theorem spaced_masked (guard : Bool) (interior : List Piece) (k : Nat) :
    Bracket.alphabet.spaced guard (masked k interior) = masked k ((alphabet true).spaced guard interior) := by
  refine spaced_image ?_ masked_eq_nil_iff (isClassLike_masked interior k) ?_
  · rw [← Bracket.trim_eq, trim_masked]
  · rw [masked, masked_append]
    rfl

/-- A sweep over a masked text is the masked sweep over its pieces. -/
theorem padAll_masked (guard : Bool) (p : List Piece) (k : Nat) :
    Bracket.padAll guard (masked k p) = masked k ((alphabet true).padAll guard p) := by
  rw [Bracket.padAll_eq]
  fun_induction (alphabet true).padAll guard p generalizing k with
  | case1 => rw [masked, padAll]
  | case2 p interior rest h ih =>
    have hspan : Bracket.alphabet.span? (masked k p) =
        some (masked k interior, masked (k + (literals interior).length) rest) := by
      rw [span?_masked, h]
      rfl
    rw [masked, padAll_opening_of_some hspan, spaced_masked, ih, masked, masked_append, literals_spaced, masked]
  | case3 p h ih =>
    have hspan : Bracket.alphabet.span? (masked k p) = none := by
      rw [span?_masked, h]
      rfl
    rw [masked, padAll_opening_of_none hspan, ih, masked]
  | case4 x p hx ih =>
    cases x with
    | code c => rw [masked, padAll_cons_of_ne (by simpa using hx), ih, masked]
    | literal s => rw [masked, padAll_append (fun c hc => (ne_bracket_of_mem_mark _ c hc).1), ih, masked]

/-- A sweep keeps the literals. -/
theorem literals_padAll (guard through : Bool) (p : List Piece) :
    literals ((alphabet through).padAll guard p) = literals p := by
  fun_induction (alphabet through).padAll guard p with
  | case1 => rfl
  | case2 p interior rest h ih =>
    obtain ⟨rfl, -⟩ := eq_of_span? h
    rw [literals, literals, literals_append, literals_append, literals_spaced, literals, literals, ih]
  | case3 p h ih => rw [literals, literals, ih]
  | case4 x p hx ih =>
    cases x with
    | code c => rw [literals, literals, ih]
    | literal s => rw [literals, literals, ih]

end BracketSpacing.Piece
