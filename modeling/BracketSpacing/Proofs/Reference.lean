import Mathlib
import BracketSpacing.Proofs.Interior
import BracketSpacing.Proofs.Normalization

/-!
# Rewriting brackets in place

* `Segment.tagged`: the characters of a text, each with the kind of the segment it lies in.
* `rewriteCode`: the text with one blank on each side of the trimmed interior between an opening bracket in code and the
  next bracket in code, if that closes it on the same line. Interiors are raw text, so literals are part of them.
* A sweep over anchored pieces is the rewriting of their characters (`rewriteCode_tagged`).
* Marks, repeated passes and putting literals back come to this rewriting, and a masked interior is judged and trimmed
  as the text it stands for (`text_normalizeWith_eq_rewriteCode`).
-/

namespace BracketSpacing

open Piece Placeholder

variable {guard through : Bool}

/-! ## The reference -/

/-- The characters of segments, each with the kind of its segment. -/
def Segment.tagged : List Segment → List (Char × Kind)
  | [] => []
  | s :: segments => s.text.map (fun c => (c, s.kind)) ++ tagged segments

/-- What stands before the next bracket in code, that bracket, and what follows it. -/
def nextBracket? : List (Char × Kind) → Option (List (Char × Kind) × Char × List (Char × Kind))
  | [] => none
  | (c, kind) :: s =>
    if kind = .code ∧ (c = '[' ∨ c = ']') then some ([], c, s)
    else (nextBracket? s).map fun (before, bracket, rest) => ((c, kind) :: before, bracket, rest)

theorem nextBracket?_rest_lt : ∀ {s before rest : List (Char × Kind)} {bracket : Char},
    nextBracket? s = some (before, bracket, rest) → rest.length < s.length
  | [], _, _, _, h => by cases h
  | (c, kind) :: s, before, rest, bracket, h => by
    rw [nextBracket?] at h
    split at h
    · cases h
      exact Nat.lt_succ_self _
    · obtain ⟨⟨b, d, r⟩, hs, he⟩ := Option.map_eq_some_iff.mp h
      cases he
      exact Nat.lt_succ_of_lt (nextBracket?_rest_lt hs)

/-- What becomes of the raw interior of a span. -/
def rewriteInterior (guard : Bool) (s : List Char) : List Char :=
  if Text.trim s = [] ∨ guard = true ∧ s ≠ [] ∧
      s.all (fun c => Text.isWordChar c || c == '^' || c == '-' || c == '\\') = true then s
  else ' ' :: (Text.trim s ++ [' '])

/-- Whether a stretch between two brackets may be rewritten: it has no line break, and, if spans are not to go through
literals, no character of a literal. -/
def IsInterior (through : Bool) (s : List (Char × Kind)) : Prop :=
  ∀ x ∈ s, x.1 ≠ '\n' ∧ x.1 ≠ '\r' ∧ (through = true ∨ x.2 = .code)

instance (through : Bool) (s : List (Char × Kind)) : Decidable (IsInterior through s) :=
  inferInstanceAs (Decidable (∀ x ∈ s, _))

/-- The text with the interior rewritten between each opening bracket in code and the next bracket in code, if that is
a closing one. -/
def rewriteCode (guard through : Bool) : List (Char × Kind) → List Char
  | [] => []
  | (c, kind) :: s =>
    if kind = .code ∧ c = '[' then
      match _h : nextBracket? s with
      | some (interior, bracket, rest) =>
        if bracket = ']' ∧ IsInterior through interior then
          '[' :: (rewriteInterior guard (interior.map Prod.fst) ++ ']' :: rewriteCode guard through rest)
        else '[' :: rewriteCode guard through s
      | none => '[' :: rewriteCode guard through s
    else c :: rewriteCode guard through s
termination_by s => s.length
decreasing_by
  all_goals first
    | exact Nat.lt_succ_of_lt (nextBracket?_rest_lt (by assumption))
    | exact Nat.lt_succ_self _

theorem rewriteInterior_eq_spaced (guard : Bool) (s : List Char) :
    rewriteInterior guard s = Bracket.alphabet.spaced guard s := by
  have hclass : Bracket.isClassLike s = true ↔
      s ≠ [] ∧ s.all (fun c => Text.isWordChar c || c == '^' || c == '-' || c == '\\') = true := by
    rw [Bracket.isClassLike, Bool.and_eq_true, Bool.not_eq_true', List.isEmpty_eq_false_iff]
    exact Iff.rfl
  have hkept : (Text.trim s = [] ∨ guard = true ∧ s ≠ [] ∧
      s.all (fun c => Text.isWordChar c || c == '^' || c == '-' || c == '\\') = true) ↔
        Bracket.isKept guard s = true := by
    rw [← hclass, Bracket.isKept, Bool.or_eq_true, Bool.and_eq_true, List.isEmpty_iff]
  rw [rewriteInterior, Alphabet.spaced, ← Bracket.isKept_eq, ← Bracket.trim_eq]
  by_cases h : Bracket.isKept guard s = true
  · rw [if_pos h, if_pos (hkept.mpr h)]
  · rw [if_neg h, if_neg fun hk => h (hkept.mp hk)]

theorem rewriteCode_opening_of_some {s interior rest : List (Char × Kind)}
    (h : nextBracket? s = some (interior, ']', rest)) (hi : IsInterior through interior) :
    rewriteCode guard through (('[', .code) :: s) =
      '[' :: (rewriteInterior guard (interior.map Prod.fst) ++ ']' :: rewriteCode guard through rest) := by
  rw [rewriteCode, if_pos ⟨rfl, rfl⟩]
  split
  · rename_i h'
    rw [h] at h'
    cases h'
    rw [if_pos ⟨rfl, hi⟩]
  · rename_i h'
    rw [h] at h'
    cases h'

theorem rewriteCode_opening_of_not {s : List (Char × Kind)}
    (h : ∀ interior bracket rest, nextBracket? s = some (interior, bracket, rest) →
      ¬(bracket = ']' ∧ IsInterior through interior)) :
    rewriteCode guard through (('[', .code) :: s) = '[' :: rewriteCode guard through s := by
  rw [rewriteCode, if_pos ⟨rfl, rfl⟩]
  split
  · rename_i interior bracket rest hs
    rw [if_neg (h interior bracket rest hs)]
  · rfl

theorem rewriteCode_cons_of_ne {c : Char} {kind : Kind} (hc : ¬(kind = .code ∧ c = '[')) (s : List (Char × Kind)) :
    rewriteCode guard through ((c, kind) :: s) = c :: rewriteCode guard through s := by
  rw [rewriteCode, if_neg hc]

theorem rewriteCode_literal (s : List (Char × Kind)) : ∀ t : List Char,
    rewriteCode guard through (t.map (fun c => (c, .literal)) ++ s) = t ++ rewriteCode guard through s
  | [] => rfl
  | c :: t => by
    rw [List.map_cons, List.cons_append, rewriteCode_cons_of_ne (by simp), rewriteCode_literal s t, List.cons_append]

/-! ## Characters of pieces -/

/-- The characters of pieces, each with its kind. -/
def Piece.tagged : List Piece → List (Char × Kind)
  | [] => []
  | code c :: p => (c, .code) :: tagged p
  | literal s :: p => s.map (fun c => (c, .literal)) ++ tagged p

theorem tagged_append : ∀ p q : List Piece, Piece.tagged (p ++ q) = Piece.tagged p ++ Piece.tagged q
  | [], _ => rfl
  | code c :: p, q => by
    rw [List.cons_append, Piece.tagged, tagged_append p q]
    rfl
  | literal s :: p, q => by rw [List.cons_append, Piece.tagged, tagged_append p q, Piece.tagged, List.append_assoc]

theorem tagged_codes : ∀ s : List Char, Piece.tagged (codes s) = s.map fun c => (c, .code)
  | [] => rfl
  | c :: s => by
    rw [codes_cons, Piece.tagged, tagged_codes s]
    rfl

theorem tagged_ofSegments : ∀ segments : List Segment, Piece.tagged (ofSegments segments) = Segment.tagged segments
  | [] => rfl
  | ⟨.code, s⟩ :: segments => by
    rw [ofSegments, tagged_append, tagged_codes, tagged_ofSegments segments, Segment.tagged]
  | ⟨.literal, s⟩ :: segments => by
    rw [ofSegments, Piece.tagged, tagged_ofSegments segments, Segment.tagged]

theorem map_fst_tagged : ∀ p : List Piece, (Piece.tagged p).map Prod.fst = joined p
  | [] => rfl
  | code c :: p => by rw [Piece.tagged, List.map_cons, map_fst_tagged p, joined_code]
  | literal s :: p => by
    rw [Piece.tagged, List.map_append, map_fst_tagged p, joined_literal, List.map_map]
    congr 1
    exact List.map_id s

/-! ## Spans in place -/

theorem nextBracket?_append : ∀ {a : List (Char × Kind)}, (∀ x ∈ a, ¬(x.2 = .code ∧ (x.1 = '[' ∨ x.1 = ']'))) →
    ∀ s, nextBracket? (a ++ s) = (nextBracket? s).map fun (before, bracket, rest) => (a ++ before, bracket, rest)
  | [], _, s => by simp
  | (c, kind) :: a, h, s => by
    have hc : ¬(kind = .code ∧ (c = '[' ∨ c = ']')) := h (c, kind) List.mem_cons_self
    rw [List.cons_append, nextBracket?, if_neg hc, nextBracket?_append fun x hx => h x (List.mem_cons_of_mem _ hx),
      Option.map_map]
    rfl

theorem nextBracket?_bracket {b : Char} (hb : b = '[' ∨ b = ']') (s : List (Char × Kind)) :
    nextBracket? ((b, .code) :: s) = some ([], b, s) := by
  rw [nextBracket?, if_pos ⟨rfl, hb⟩]

theorem isInterior_append {a b : List (Char × Kind)} :
    IsInterior through (a ++ b) ↔ IsInterior through a ∧ IsInterior through b :=
  List.forall_mem_append

/-- Pieces that are no brackets have no characters that are brackets in code. -/
theorem not_bracket_of_mem_tagged : ∀ {p : List Piece}, (∀ x ∈ p, x ≠ code '[' ∧ x ≠ code ']') →
    ∀ y ∈ Piece.tagged p, ¬(y.2 = .code ∧ (y.1 = '[' ∨ y.1 = ']'))
  | [], _, y, hy => by cases hy
  | code c :: p, h, y, hy => by
    rcases List.mem_cons.mp hy with rfl | hy
    · have hc := h _ List.mem_cons_self
      rintro ⟨-, rfl | rfl⟩
      · exact hc.1 rfl
      · exact hc.2 rfl
    · exact not_bracket_of_mem_tagged (fun x hx => h x (List.mem_cons_of_mem _ hx)) y hy
  | literal s :: p, h, y, hy => by
    rcases List.mem_append.mp hy with hy | hy
    · obtain ⟨c, -, rfl⟩ := List.mem_map.mp hy
      simp
    · exact not_bracket_of_mem_tagged (fun x hx => h x (List.mem_cons_of_mem _ hx)) y hy

theorem ne_bracket_of_not_isFence {x : Piece} (hx : x.isFence through = false) : x ≠ code '[' ∧ x ≠ code ']' := by
  constructor
  · rintro rfl
    cases hx
  · rintro rfl
    cases hx

/-- A span may go through the characters of pieces that are no fences. -/
theorem isInterior_tagged : ∀ {p : List Piece}, (∀ x ∈ p, x.isFence through = false) →
    IsInterior through (Piece.tagged p)
  | [], _ => fun y hy => by cases hy
  | code c :: p, h => by
    have hc : (code c).isFence through = false := h _ List.mem_cons_self
    have ih : IsInterior through (Piece.tagged p) := isInterior_tagged fun x hx => h x (List.mem_cons_of_mem _ hx)
    simp only [isFence, Bracket.isFence, Bool.or_eq_false_iff, beq_eq_false_iff_ne] at hc
    intro y hy
    rcases List.mem_cons.mp hy with rfl | hy
    · exact ⟨hc.1.2, hc.2, Or.inr rfl⟩
    · exact ih y hy
  | literal s :: p, h => by
    have hs : (literal s).isFence through = false := h _ List.mem_cons_self
    have ih : IsInterior through (Piece.tagged p) := isInterior_tagged fun x hx => h x (List.mem_cons_of_mem _ hx)
    rw [isFence, Bool.or_eq_false_iff, hasLineBreak, List.any_eq_false] at hs
    obtain ⟨ht, hline⟩ := hs
    refine isInterior_append.mpr ⟨fun y hy => ?_, ih⟩
    obtain ⟨c, hc, rfl⟩ := List.mem_map.mp hy
    have hne : ¬(c == '\n' || c == '\r') = true := hline c hc
    simp only [Bool.or_eq_true, beq_iff_eq, not_or] at hne
    exact ⟨hne.1, hne.2, Or.inl (by simpa using ht)⟩

/-- No span may go through the characters of a fence, unless that is a bracket. -/
theorem not_isInterior_of_isFence {x : Piece} {p : List Piece} (hx : x.isFence through = true)
    (hb : x ≠ code '[' ∧ x ≠ code ']') (h : Anchored (x :: p)) : ¬IsInterior through (Piece.tagged [x]) := by
  intro hi
  cases x with
  | code c =>
    obtain ⟨hn, hr, -⟩ := hi (c, .code) List.mem_cons_self
    simp only [isFence, Bracket.isFence, Bool.or_eq_true, beq_iff_eq] at hx
    rcases hx with ((rfl | rfl) | rfl) | rfl
    · exact hb.1 rfl
    · exact hb.2 rfl
    · exact hn rfl
    · exact hr rfl
  | literal s =>
    have hmem : ∀ c ∈ s, c ≠ '\n' ∧ c ≠ '\r' ∧ (through = true ∨ Kind.literal = Kind.code) := fun c hc =>
      hi (c, .literal) (List.mem_append_left _ (List.mem_map_of_mem hc))
    cases through with
    | false =>
      obtain ⟨⟨kind, hk⟩, -⟩ := h
      obtain ⟨c, t, rfl, -, -⟩ := hk.exists_head
      obtain ⟨-, -, hc⟩ := hmem c List.mem_cons_self
      simp at hc
    | true =>
      have hs : hasLineBreak s = true := hx
      obtain ⟨c, hc, hline⟩ := List.any_eq_true.mp hs
      obtain ⟨hn, hr, -⟩ := hmem c hc
      simp [hn, hr] at hline

/-- Where a span starts, the next bracket closes it. -/
theorem nextBracket?_of_span? {p interior rest : List Piece} (h : (alphabet through).span? p = some (interior, rest)) :
    nextBracket? (Piece.tagged p) = some (Piece.tagged interior, ']', Piece.tagged rest) ∧
      IsInterior through (Piece.tagged interior) := by
  obtain ⟨rfl, hi⟩ := Alphabet.eq_of_span? h
  have hno := not_bracket_of_mem_tagged fun x hx => ne_bracket_of_not_isFence (hi x hx)
  refine ⟨?_, isInterior_tagged hi⟩
  rw [tagged_append, Piece.tagged, nextBracket?_append hno, nextBracket?_bracket (Or.inr rfl)]
  simp

/-- Where no span starts, the next bracket opens another one, or no span may go as far as that. -/
theorem nextBracket?_of_span?_none : ∀ {p : List Piece}, Anchored p → (alphabet through).span? p = none →
    ∀ interior bracket rest, nextBracket? (Piece.tagged p) = some (interior, bracket, rest) →
      ¬(bracket = ']' ∧ IsInterior through interior)
  | [], _, _, interior, bracket, rest, hn => by cases hn
  | x :: p, ha, h, interior, bracket, rest, hn => by
    by_cases hopen : x = code '['
    · subst hopen
      rw [Piece.tagged, nextBracket?_bracket (Or.inl rfl)] at hn
      cases hn
      exact fun hb => absurd hb.1 (by decide)
    · have hclose : x ≠ code ']' := by
        rintro rfl
        rw [Alphabet.span?_closing] at h
        cases h
      -- The next bracket is the one after this piece, and the piece lies in front of it.
      have hno : ∀ y ∈ Piece.tagged [x], ¬(y.2 = .code ∧ (y.1 = '[' ∨ y.1 = ']')) :=
        not_bracket_of_mem_tagged fun y hy => by
          rw [List.mem_singleton.mp hy]
          exact ⟨hopen, hclose⟩
      have hx : x :: p = [x] ++ p := rfl
      rw [hx, tagged_append, nextBracket?_append hno] at hn
      obtain ⟨⟨before, b, r⟩, hs, he⟩ := Option.map_eq_some_iff.mp hn
      cases he
      rintro ⟨rfl, hi⟩
      obtain ⟨hleft, hright⟩ := isInterior_append.mp hi
      cases hf : x.isFence through with
      | true => exact not_isInterior_of_isFence hf ⟨hopen, hclose⟩ ha hleft
      | false =>
        have ha' : Anchored p := Anchored.of_append (p := [x]) ha
        rw [Alphabet.span?_cons_of_not_fence hf, Option.map_eq_none_iff] at h
        exact nextBracket?_of_span?_none ha' h before ']' rest hs ⟨rfl, hright⟩

/-! ## Sweeping and rewriting -/

/-- A sweep over anchored pieces rewrites their characters in place. -/
theorem rewriteCode_tagged (guard through : Bool) (p : List Piece) (h : Anchored p) :
    rewriteCode guard through (Piece.tagged p) = joined ((alphabet through).padAll guard p) := by
  fun_induction (alphabet through).padAll guard p with
  | case1 =>
    rw [Piece.tagged, rewriteCode]
    rfl
  | case2 p interior rest hspan ih =>
    obtain ⟨hnext, hin⟩ := nextBracket?_of_span? hspan
    obtain ⟨rfl, hi⟩ := Alphabet.eq_of_span? hspan
    have hp : Anchored (interior ++ code ']' :: rest) := h
    have hrest : Anchored rest := hp.of_append
    rw [Piece.tagged, rewriteCode_opening_of_some hnext hin, map_fst_tagged, rewriteInterior_eq_spaced,
      spaced_joined guard hp hi, ih hrest, joined_code, joined_append, joined_code]
  | case3 p hspan ih =>
    have hp : Anchored p := h
    rw [Piece.tagged, rewriteCode_opening_of_not (nextBracket?_of_span?_none hp hspan), ih hp, joined_code]
  | case4 x p hx ih =>
    have hp : Anchored p := Anchored.of_append (p := [x]) h
    cases x with
    | code c =>
      have hc : ¬(Kind.code = .code ∧ c = '[') := fun hc => hx (by rw [hc.2])
      rw [Piece.tagged, rewriteCode_cons_of_ne hc, ih hp, joined_code]
    | literal s => rw [Piece.tagged, rewriteCode_literal, ih hp, joined_literal]

/-! ## Masked interiors -/

/-- A masked interior is judged and trimmed as the text that it stands for. -/
structure JudgedAlike (table : Array (List Char)) (interior : List Char) : Prop where
  blank : Text.trim interior = [] ↔ Text.trim (restore table interior) = []
  guarded : Bracket.isClassLike interior = Bracket.isClassLike (restore table interior)
  trimmed : restore table (Text.trim interior) = Text.trim (restore table interior)

theorem not_isFence_of_masked : ∀ {p : List Piece} {k : Nat}, (∀ c ∈ masked k p, Bracket.isFence c = false) →
    ∀ x ∈ p, x.isFence true = false
  | [], _, _, x, hx => by cases hx
  | code c :: p, k, h, x, hx => by
    rcases List.mem_cons.mp hx with rfl | hx
    · exact h c List.mem_cons_self
    · exact not_isFence_of_masked (k := k) (fun d hd => h d (List.mem_cons_of_mem _ hd)) x hx
  | literal s :: p, k, h, x, hx => by
    rcases List.mem_cons.mp hx with rfl | hx
    · cases hs : hasLineBreak s with
      | false => simp [isFence, hs]
      | true =>
        have hfeed : '\n' ∈ masked k (literal s :: p) := by
          rw [masked, hs, mark_text_true]
          simp
        exact absurd (h '\n' hfeed) (by decide)
    · exact not_isFence_of_masked (k := k + 1) (fun d hd => h d (List.mem_append_right _ hd)) x hx

/-- The interior between two brackets of masked pieces stands for a part of their text, and it is judged as that. -/
theorem judgedAlike_of_masked {p : List Piece} {front interior back : List Char} (ha : Anchored p)
    (hd : (joined p).any isDelimiter = false) (hm : masked 0 p = front ++ '[' :: (interior ++ ']' :: back))
    (hf : ∀ c ∈ interior, Bracket.isFence c = false) :
    let table := (Piece.literals p).toArray
    joined p = restore table front ++ '[' :: (restore table interior ++ ']' :: restore table back) ∧
      JudgedAlike table interior := by
  obtain ⟨a, q, rfl, rfl, hq⟩ := exists_of_masked_eq (Or.inl rfl) hm
  obtain ⟨i, b, rfl, rfl, rfl⟩ := exists_of_masked_eq (Or.inr rfl) hq.symm
  have hfence := not_isFence_of_masked hf
  have hanchored : Anchored (i ++ code ']' :: b) := Anchored.of_append (p := a ++ [code '[']) (by simpa using ha)
  intro table
  obtain ⟨u, v, he, -, -⟩ := exists_trim true i
  -- The parts of the masked text are marked with consecutive parts of the table.
  have hfront : restore table (masked 0 a) = joined a := restore_part (a := []) hd (List.nil_append _) rfl
  have hinterior : restore table (masked (0 + (Piece.literals a).length) i) = joined i :=
    restore_part (a := a ++ [code '[']) (b := code ']' :: b) hd (by simp) (by simp [literals_append, Piece.literals])
  have htrimmed : restore table (masked (0 + (Piece.literals a).length) ((alphabet true).trim i)) =
      joined ((alphabet true).trim i) := by
    refine restore_part (a := a ++ code '[' :: codes u) (b := codes v ++ code ']' :: b) hd ?_
      (by simp [literals_append, Piece.literals, literals_codes])
    conv_lhs => rw [he]
    simp
  have hback : restore table (masked (0 + (Piece.literals a).length + (Piece.literals i).length) b) = joined b := by
    refine restore_part (a := a ++ code '[' :: (i ++ [code ']'])) (b := []) hd (by simp) ?_
    simp [literals_append, Piece.literals]
  refine ⟨by rw [hfront, hinterior, hback]; simp, ?_, ?_, ?_⟩
  · rw [hinterior, trim_joined_eq_nil_iff hanchored hfence, trim_masked, masked_eq_nil_iff]
  · rw [hinterior, isClassLike_joined true hanchored, isClassLike_masked]
  · rw [hinterior, trim_joined hanchored hfence, trim_masked, htrimmed]

/-- The text masks pieces that are lexed from the mode, hold no mark characters, and have the given literals. -/
def Masks (mode : Mode) (literals : List (List Char)) (s : List Char) : Prop :=
  ∃ p, s = masked 0 p ∧ Lexed mode p ∧ (joined p).any isDelimiter = false ∧ Piece.literals p = literals

/-- A pass over a masked text gives a text that masks the same literals. -/
theorem Masks.padAll {mode : Mode} {literals : List (List Char)} {s : List Char} (h : Masks mode literals s)
    (guard : Bool) : Masks mode literals (Bracket.padAll guard s) := by
  obtain ⟨p, rfl, hl, hd, hlit⟩ := h
  refine ⟨(alphabet true).padAll guard p, padAll_masked guard p 0, (respaced_padAll guard true p).lexed hl, ?_, ?_⟩
  · rw [any_isDelimiter_joined (respaced_padAll guard true p), hd]
  · rw [literals_padAll, hlit]

/-- So do any number of passes. -/
theorem Masks.iterate {mode : Mode} {literals : List (List Char)} {s : List Char} (h : Masks mode literals s)
    (guard : Bool) (pass : Nat) : Masks mode literals ((Bracket.padAll guard)^[pass] s) := by
  induction pass with
  | zero => exact h
  | succ pass ih =>
    rw [Function.iterate_succ_apply']
    exact ih.padAll guard

/-! ## The whole pipeline -/

theorem any_isDelimiter_eq_false {text : List Char} (h : ∀ c ∈ text, c ≠ '\uE000' ∧ c ≠ '\uE001') :
    text.any isDelimiter = false := by
  rw [List.any_eq_false]
  intro c hc hd
  simp only [isDelimiter, Bool.or_eq_true, beq_iff_eq] at hd
  exact hd.elim (h c hc).1 (h c hc).2

/-- **Normalizing is rewriting in place.** Without mark characters in the text, the normalized text is the text with the
brackets in its code rewritten. In every pass, what stands between two brackets of the masked text stands for what is
between these brackets in the text, and it is judged and trimmed alike. -/
theorem text_normalizeWith_eq_rewriteCode {limit : Nat} (h : 1 ≤ limit) (guard : Bool) {text : List Char}
    (hd : ∀ c ∈ text, c ≠ '\uE000' ∧ c ≠ '\uE001') :
    let segments := Strategy.php.segments text
    let table := (Placeholder.literals segments).toArray
    (normalizeWith .php guard limit text).text = rewriteCode guard true (Segment.tagged segments) ∧
      ∀ pass front interior back,
        (Bracket.padAll guard)^[pass] (mask segments) = front ++ '[' :: (interior ++ ']' :: back) →
        (∀ c ∈ interior, Bracket.isFence c = false) →
          restore table ((Bracket.padAll guard)^[pass] (mask segments)) =
            restore table front ++ '[' :: (restore table interior ++ ']' :: restore table back) ∧
          JudgedAlike table interior := by
  intro segments table
  have hany : text.any isDelimiter = false := any_isDelimiter_eq_false hd
  have hl : Lexed (startMode text) (ofSegments segments) := lexed_scan _ _
  constructor
  · rw [text_normalizeWith_php h, hany, Bool.not_false, swept, ← rewriteCode_tagged guard true _ hl.anchored,
      tagged_ofSegments]
  · intro pass front interior back hm hf
    have hj : (joined (ofSegments segments)).any isDelimiter = false := by
      rw [joined_ofSegments, Strategy.joined_segments .php text, hany]
    have hmasks : Masks (startMode text) (Placeholder.literals segments) (mask segments) :=
      ⟨ofSegments segments, maskFrom_eq_masked segments 0, hl, hj, literals_ofSegments segments⟩
    obtain ⟨p, hp, hlp, hdp, hlit⟩ := hmasks.iterate guard pass
    have htable : table = (Piece.literals p).toArray := by rw [hlit]
    rw [hp] at hm ⊢
    rw [htable, restore_literals hdp]
    exact judgedAlike_of_masked hlp.anchored hdp hm hf

theorem text_normalizeWith_eq_rewriteCode_marks : 1 ≤ 1 ∧
    (∀ c ∈ "$a=[ 'x]'];['\n'];".toList, c ≠ '\uE000' ∧ c ≠ '\uE001') ∧
    (normalizeWith .php true 1 "$a=[ 'x]'];['\n'];".toList).text = "$a=[ 'x]' ];['\n'];".toList ∧
    rewriteCode true true (Segment.tagged (Strategy.php.segments "$a=[ 'x]'];['\n'];".toList)) =
      "$a=[ 'x]' ];['\n'];".toList ∧
    JudgedAlike #["'x]'".toList, "'\n'".toList] " \uE0000\uE001".toList := by
  have hd : ∀ c ∈ "$a=[ 'x]'];['\n'];".toList, c ≠ '\uE000' ∧ c ≠ '\uE001' := by simp
  have ht : (normalizeWith .php true 1 "$a=[ 'x]'];['\n'];".toList).text = "$a=[ 'x]' ];['\n'];".toList := by cbv
  have htable : Placeholder.literals (Strategy.php.segments "$a=[ 'x]'];['\n'];".toList) =
      ["'x]'".toList, "'\n'".toList] := by cbv
  have hmask : mask (Strategy.php.segments "$a=[ 'x]'];['\n'];".toList) =
      "$a=".toList ++ '[' :: (" \uE0000\uE001".toList ++ ']' :: ";[\uE0001\n\uE001];".toList) := by cbv
  have hfences : ∀ c ∈ " \uE0000\uE001".toList, Bracket.isFence c = false := by simp [Bracket.isFence]
  obtain ⟨h, hj⟩ := text_normalizeWith_eq_rewriteCode (Nat.le_refl 1) true hd
  have hjudged := (hj 0 _ _ _ hmask hfences).2
  rw [htable] at hjudged
  exact ⟨Nat.le_refl 1, hd, ht, h.symm.trans ht, hjudged⟩

end BracketSpacing
