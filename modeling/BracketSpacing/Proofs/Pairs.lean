import Mathlib
import BracketSpacing.Proofs.Absorption
import BracketSpacing.Proofs.Conservation
import BracketSpacing.Proofs.Reference

/-!
# One pair of brackets

* `IsPair`: an opening and a closing bracket in code with no bracket of the code between them.
* What becomes of a pair does not depend on the text around it: the interior is rewritten if it may be, the brackets
  stay, and what stands before and after them is rewritten by itself (`rewriteCode_pair`).
* `text_normalizeWith_of_marks`: a text with mark characters is rewritten by the same rule as any other, at the pairs
  that lie in one code segment. Mark characters are characters like others there.
-/

namespace BracketSpacing

open Piece Placeholder

variable {guard through : Bool} {limit : Nat} {s before interior after : List (Char × Kind)}

/-! ## The next bracket in a longer text -/

theorem nextBracket?_append_of_some {bracket : Char} {rest : List (Char × Kind)} :
    ∀ {a interior : List (Char × Kind)}, nextBracket? a = some (interior, bracket, rest) → ∀ s,
      nextBracket? (a ++ s) = some (interior, bracket, rest ++ s)
  | [], _, h, _ => by cases h
  | (c, kind) :: a, interior, h, s => by
    rw [List.cons_append, nextBracket?]
    rw [nextBracket?] at h
    split at h
    · rename_i hc
      cases h
      rw [if_pos hc]
    · rename_i hc
      obtain ⟨⟨i, b, r⟩, ha, he⟩ := Option.map_eq_some_iff.mp h
      cases he
      rw [if_neg hc, nextBracket?_append_of_some ha s]
      rfl

theorem not_bracket_of_nextBracket?_eq_none : ∀ {a : List (Char × Kind)}, nextBracket? a = none →
    ∀ x ∈ a, ¬(x.2 = .code ∧ (x.1 = '[' ∨ x.1 = ']'))
  | [], _, x, hx => by cases hx
  | (c, kind) :: a, h, x, hx => by
    rw [nextBracket?] at h
    split at h
    · cases h
    · rename_i hc
      rcases List.mem_cons.mp hx with rfl | hx
      · exact hc
      · exact not_bracket_of_nextBracket?_eq_none (Option.map_eq_none_iff.mp h) x hx

/-! ## Rewriting a pair -/

/-- An opening and a closing bracket in code, with no bracket of the code between them. -/
structure IsPair (s before interior after : List (Char × Kind)) : Prop where
  split : s = before ++ ('[', .code) :: (interior ++ (']', .code) :: after)
  no_bracket : ∀ x ∈ interior, ¬(x.2 = .code ∧ (x.1 = '[' ∨ x.1 = ']'))

/-- No span goes over an opening bracket, so what stands before it is rewritten by itself. -/
theorem rewriteCode_append_opening (s before : List (Char × Kind)) :
    rewriteCode guard through (before ++ ('[', .code) :: s) =
      rewriteCode guard through before ++ rewriteCode guard through (('[', .code) :: s) := by
  fun_induction rewriteCode guard through before with
  | case1 => rfl
  | case2 c kind b hopen interior bracket rest hnext hclosed ih =>
    obtain ⟨rfl, rfl⟩ := hopen
    obtain ⟨rfl, hi⟩ := hclosed
    rw [List.cons_append, rewriteCode_opening_of_some (nextBracket?_append_of_some hnext _) hi, ih]
    simp
  | case3 c kind b hopen interior bracket rest hnext hclosed ih =>
    obtain ⟨rfl, rfl⟩ := hopen
    have hnot : ∀ i d r, nextBracket? (b ++ ('[', .code) :: s) = some (i, d, r) →
        ¬(d = ']' ∧ IsInterior through i) := by
      intro i d r h
      rw [nextBracket?_append_of_some hnext] at h
      cases h
      exact hclosed
    rw [List.cons_append, rewriteCode_opening_of_not hnot, ih]
    rfl
  | case4 c kind b hopen hnext ih =>
    obtain ⟨rfl, rfl⟩ := hopen
    have hnot : ∀ i d r, nextBracket? (b ++ ('[', .code) :: s) = some (i, d, r) →
        ¬(d = ']' ∧ IsInterior through i) := by
      intro i d r h
      rw [nextBracket?_append (not_bracket_of_nextBracket?_eq_none hnext), nextBracket?_bracket (Or.inl rfl)] at h
      cases h
      rintro ⟨hd, -⟩
      exact absurd hd (by decide)
    rw [List.cons_append, rewriteCode_opening_of_not hnot, ih]
    rfl
  | case5 c kind b hopen ih =>
    rw [List.cons_append, rewriteCode_cons_of_ne hopen, ih]
    rfl

/-- Where nothing opens a span, the text stays. -/
theorem rewriteCode_append_of_not_bracket : ∀ {a : List (Char × Kind)},
    (∀ x ∈ a, ¬(x.2 = .code ∧ (x.1 = '[' ∨ x.1 = ']'))) → ∀ s,
      rewriteCode guard through (a ++ s) = a.map Prod.fst ++ rewriteCode guard through s
  | [], _, _ => rfl
  | (c, kind) :: a, h, s => by
    have hc : ¬(kind = .code ∧ c = '[') := by
      intro hopen
      exact h (c, kind) List.mem_cons_self ⟨hopen.1, Or.inl hopen.2⟩
    rw [List.cons_append, rewriteCode_cons_of_ne hc,
      rewriteCode_append_of_not_bracket (fun x hx => h x (List.mem_cons_of_mem _ hx)) s]
    rfl

/-- What becomes of a pair of brackets and of the text around it. -/
theorem rewriteCode_pair (guard through : Bool) (h : IsPair s before interior after) :
    rewriteCode guard through s = rewriteCode guard through before ++
      '[' :: ((if IsInterior through interior then rewriteInterior guard (interior.map Prod.fst)
        else interior.map Prod.fst) ++ ']' :: rewriteCode guard through after) := by
  obtain ⟨rfl, hno⟩ := h
  have hnext : nextBracket? (interior ++ (']', .code) :: after) = some (interior, ']', after) := by
    rw [nextBracket?_append hno, nextBracket?_bracket (Or.inr rfl)]
    simp
  rw [rewriteCode_append_opening]
  split
  · rename_i hi
    rw [rewriteCode_opening_of_some hnext hi]
  · rename_i hi
    have hnot : ∀ i d r, nextBracket? (interior ++ (']', .code) :: after) = some (i, d, r) →
        ¬(d = ']' ∧ IsInterior through i) := by
      intro i d r h
      rw [hnext] at h
      cases h
      exact fun hd => hi hd.2
    rw [rewriteCode_opening_of_not hnot, rewriteCode_append_of_not_bracket hno,
      rewriteCode_cons_of_ne (fun hc => absurd hc.2 (by decide))]

/-! ## Texts with mark characters -/

theorem anchored_codes : ∀ s : List Char, Anchored (codes s)
  | [] => trivial
  | _ :: s => anchored_codes s

/-- The pieces of a text are anchored, however it is cut. -/
theorem anchored_segments (strategy : Strategy) (text : List Char) :
    Anchored (ofSegments (strategy.segments text)) := by
  cases strategy with
  | php => exact (lexed_scan _ _).anchored
  | raw =>
    rw [ofSegments_segments_raw]
    exact anchored_codes text

/-- Under both strategies normalizing is rewriting in place. Spans go through literals unless the text holds mark
characters. -/
theorem text_normalizeWith_eq_rewriteCode_segments (h : 1 ≤ limit) (strategy : Strategy) (guard : Bool)
    (text : List Char) : (normalizeWith strategy guard limit text).text =
      rewriteCode guard (!text.any isDelimiter) (Segment.tagged (strategy.segments text)) := by
  rw [text_normalizeWith_eq h, ← rewriteCode_tagged guard _ _ (anchored_segments strategy text), tagged_ofSegments]

/-- A segment with its code rewritten by itself. -/
def Segment.rewritten (guard : Bool) (s : Segment) : Segment :=
  match s.kind with
  | .code => Segment.code (rewriteCode guard true (s.text.map fun c => (c, .code)))
  | .literal => s

/-- A sweep over code rewrites it in place. -/
theorem rewriteCode_codes (guard through : Bool) (s : List Char) :
    rewriteCode guard through (s.map fun c => (c, .code)) = Bracket.padAll guard s := by
  rw [← tagged_codes, rewriteCode_tagged guard through _ (anchored_codes s), padAll_codes, joined_codes]

theorem padSegments_eq_map (guard : Bool) : ∀ segments : List Segment,
    padSegments guard segments = segments.map (Segment.rewritten guard)
  | [] => rfl
  | ⟨.code, s⟩ :: segments => by
    rw [padSegments, List.map_cons, ← padSegments_eq_map guard segments, Segment.rewritten, rewriteCode_codes]
  | ⟨.literal, s⟩ :: segments => by
    rw [padSegments, List.map_cons, ← padSegments_eq_map guard segments]
    rfl

theorem isSlack_of_isDelimiter {c : Char} (hc : isDelimiter c = true) : isSlack c = false := by
  simp only [isDelimiter, Bool.or_eq_true, beq_iff_eq] at hc
  rcases hc with rfl | rfl <;> rfl

/-- Leaving out slack leaves in the mark characters. -/
theorem filter_isDelimiter_withoutSlack (s : List Char) :
    (withoutSlack s).filter isDelimiter = s.filter isDelimiter := by
  rw [withoutSlack, List.filter_filter]
  apply List.filter_congr
  intro c _
  cases hc : isDelimiter c with
  | true => simp [isSlack_of_isDelimiter hc]
  | false => rfl

/-- **Texts with mark characters.** The normalized text is the text rewritten by the rule for texts without them, at
those pairs whose interior lies in one code segment on one line: each code segment is rewritten by itself, and the
literals stay. Any other pair keeps its interior. The mark characters are those of the text, in their order. -/
theorem text_normalizeWith_of_marks (h : 1 ≤ limit) (guard : Bool) {text : List Char}
    (hd : ∃ c ∈ text, c = '\uE000' ∨ c = '\uE001') :
    let segments := Strategy.php.segments text
    let result := (normalizeWith .php guard limit text).text
    result = rewriteCode guard false (Segment.tagged segments) ∧
    Strategy.php.segments result = segments.map (Segment.rewritten guard) ∧
    (∀ before interior after, IsPair (Segment.tagged segments) before interior after →
      result = rewriteCode guard false before ++
        '[' :: ((if IsInterior false interior then rewriteInterior guard (interior.map Prod.fst)
          else interior.map Prod.fst) ++ ']' :: rewriteCode guard false after)) ∧
    result.filter isDelimiter = text.filter isDelimiter := by
  intro segments result
  have hany : text.any isDelimiter = true := by
    obtain ⟨c, hc, he⟩ := hd
    refine List.any_eq_true.mpr ⟨c, hc, ?_⟩
    rcases he with rfl | rfl <;> rfl
  have hresult : result = rewriteCode guard false (Segment.tagged segments) := by
    have hrewritten := text_normalizeWith_eq_rewriteCode_segments h .php guard text
    rw [hany] at hrewritten
    exact hrewritten
  refine ⟨hresult, ?_, ?_, ?_⟩
  · have hswept : result = swept guard false text := by
      show (normalizeWith .php guard limit text).text = swept guard false text
      rw [text_normalizeWith_php h, hany, Bool.not_true]
    rw [hswept, segments_swept_false, padSegments_eq_map]
  · intro before interior after hpair
    rw [hresult, rewriteCode_pair guard false hpair]
  · rw [← filter_isDelimiter_withoutSlack, withoutSlack_text_normalizeWith h, filter_isDelimiter_withoutSlack]

theorem text_normalizeWith_of_marks_spelled : 1 ≤ 1 ∧
    (∃ c ∈ "[\uE0000\uE001],['a,b'],[$c]".toList, c = '\uE000' ∨ c = '\uE001') ∧
    IsPair (Segment.tagged (Strategy.php.segments "[\uE0000\uE001],['a,b'],[$c]".toList))
      (Segment.tagged [Segment.code "[\uE0000\uE001],".toList]) (Segment.tagged [Segment.literal "'a,b'".toList])
      (Segment.tagged [Segment.code ",[$c]".toList]) ∧
    (normalizeWith .php true 1 "[\uE0000\uE001],['a,b'],[$c]".toList).text =
      "[ \uE0000\uE001 ],['a,b'],[ $c ]".toList ∧
    rewriteCode true false (Segment.tagged (Strategy.php.segments "[\uE0000\uE001],['a,b'],[$c]".toList)) =
      "[ \uE0000\uE001 ],['a,b'],[ $c ]".toList ∧
    Strategy.php.segments "[ \uE0000\uE001 ],['a,b'],[ $c ]".toList =
      (Strategy.php.segments "[\uE0000\uE001],['a,b'],[$c]".toList).map (Segment.rewritten true) ∧
    "[ \uE0000\uE001 ],['a,b'],[ $c ]".toList =
      rewriteCode true false (Segment.tagged [Segment.code "[\uE0000\uE001],".toList]) ++
        '[' :: ("'a,b'".toList ++ ']' :: rewriteCode true false (Segment.tagged [Segment.code ",[$c]".toList])) ∧
    "[ \uE0000\uE001 ],['a,b'],[ $c ]".toList.filter isDelimiter =
      "[\uE0000\uE001],['a,b'],[$c]".toList.filter isDelimiter := by
  have hd : ∃ c ∈ "[\uE0000\uE001],['a,b'],[$c]".toList, c = '\uE000' ∨ c = '\uE001' := by simp
  have ht : (normalizeWith .php true 1 "[\uE0000\uE001],['a,b'],[$c]".toList).text =
      "[ \uE0000\uE001 ],['a,b'],[ $c ]".toList := by cbv
  have hs : Strategy.php.segments "[\uE0000\uE001],['a,b'],[$c]".toList =
      [Segment.code "[\uE0000\uE001],[".toList, Segment.literal "'a,b'".toList, Segment.code "],[$c]".toList] := by cbv
  have hpair : IsPair (Segment.tagged (Strategy.php.segments "[\uE0000\uE001],['a,b'],[$c]".toList))
      (Segment.tagged [Segment.code "[\uE0000\uE001],".toList]) (Segment.tagged [Segment.literal "'a,b'".toList])
      (Segment.tagged [Segment.code ",[$c]".toList]) :=
    ⟨by rw [hs]; simp [Segment.tagged], by simp [Segment.tagged]⟩
  have hcrosses : ¬IsInterior false (Segment.tagged [Segment.literal "'a,b'".toList]) := by
    simp [IsInterior, Segment.tagged]
  obtain ⟨hrewritten, hsegments, hpairs, hkept⟩ := text_normalizeWith_of_marks (Nat.le_refl 1) true hd
  have hplace := hpairs _ _ _ hpair
  have hinterior : (Segment.tagged [Segment.literal "'a,b'".toList]).map Prod.fst = "'a,b'".toList := rfl
  rw [if_neg hcrosses, hinterior] at hplace
  rw [ht] at hrewritten hsegments hplace hkept
  exact ⟨Nat.le_refl 1, hd, hpair, ht, hrewritten.symm, hsegments, hplace, hkept⟩

end BracketSpacing
