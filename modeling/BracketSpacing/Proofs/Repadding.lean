import Mathlib
import BracketSpacing.Proofs.Pairs

/-!
# Padding that is there already

* `repadded`: a text with other slack next to the inside of one pair of brackets.
* A pair of brackets is one of pieces (`exists_of_isPair`), so exchanging its slack only changes slack inside brackets
  (`exists_respaced_of_isPair`): the text is cut alike and the pair is still a pair.
* What is padded depends on the trimmed interior only (`spaced_of_trim`), so the normalized text does not tell
  which slack was there before (`text_normalizeWith_repadded`).
-/

namespace BracketSpacing

open Piece Placeholder

variable {guard through : Bool} {limit : Nat} {strategy : Strategy} {text left right : List Char} {p q : List Piece}
  {before interior after : List (Char × Kind)}

/-- The text around and inside a pair of brackets, with the runs of slack next to the inside of the two brackets
exchanged for others. -/
def repadded (before interior after : List (Char × Kind)) (left right : List Char) : List Char :=
  before.map Prod.fst ++
    '[' :: (left ++ Text.strippedOf isSlack (interior.map Prod.fst) ++ right ++ ']' :: after.map Prod.fst)

/-! ## Pairs of pieces -/

/-- A character of the code is a piece of its own. -/
theorem exists_of_tagged_eq {b : Char} : ∀ {p : List Piece} {u v : List (Char × Kind)},
    Piece.tagged p = u ++ (b, .code) :: v →
      ∃ front back, p = front ++ code b :: back ∧ Piece.tagged front = u ∧ Piece.tagged back = v
  | [], u, v, h => by
    have hlen := congrArg List.length h
    simp [Piece.tagged] at hlen
  | code c :: p, [], v, h => by
    obtain ⟨he, rfl⟩ := List.cons.inj h
    obtain ⟨rfl, -⟩ := Prod.mk.inj he
    exact ⟨[], p, rfl, rfl, rfl⟩
  | code c :: p, x :: u, v, h => by
    obtain ⟨rfl, hrest⟩ := List.cons.inj h
    obtain ⟨front, back, rfl, rfl, rfl⟩ := exists_of_tagged_eq hrest
    exact ⟨code c :: front, back, rfl, rfl, rfl⟩
  | literal s :: p, u, v, h => by
    rw [Piece.tagged, List.append_eq_append_iff] at h
    -- The character stands after the literal, for it is none of those.
    have hafter : ∃ w, u = s.map (fun c => (c, .literal)) ++ w ∧ Piece.tagged p = w ++ (b, .code) :: v := by
      rcases h with ⟨w, hu, hw⟩ | ⟨w, hs, hw⟩
      · exact ⟨w, hu, hw⟩
      · cases w with
        | nil => exact ⟨[], by simpa using hs.symm, by simpa using hw.symm⟩
        | cons y w =>
          obtain ⟨rfl, -⟩ := List.cons.inj hw
          have hmem : (b, Kind.code) ∈ s.map fun c => (c, Kind.literal) := by rw [hs]; simp
          simp at hmem
    obtain ⟨w, rfl, hw⟩ := hafter
    obtain ⟨front, back, rfl, rfl, rfl⟩ := exists_of_tagged_eq hw
    exact ⟨literal s :: front, back, rfl, rfl, rfl⟩

/-- The brackets of a pair are pieces. -/
theorem exists_of_isPair (h : IsPair (Piece.tagged p) before interior after) :
    ∃ front i back, p = front ++ code '[' :: (i ++ code ']' :: back) ∧ Piece.tagged front = before ∧
      Piece.tagged i = interior ∧ Piece.tagged back = after := by
  obtain ⟨front, rest, rfl, hfront, hrest⟩ := exists_of_tagged_eq h.split
  obtain ⟨i, back, rfl, hi, hback⟩ := exists_of_tagged_eq hrest
  exact ⟨front, i, back, rfl, hfront, hi, hback⟩

/-- Pieces that a span may go through, and that are no brackets, are no fences. -/
theorem not_isFence_of_isInterior : ∀ {p : List Piece}, Anchored (p ++ q) →
    (∀ y ∈ Piece.tagged p, ¬(y.2 = .code ∧ (y.1 = '[' ∨ y.1 = ']'))) → IsInterior through (Piece.tagged p) →
      ∀ x ∈ p, x.isFence through = false
  | [], _, _, _, x, hx => by cases hx
  | y :: p, ha, hno, hi, x, hx => by
    have hy : y :: p = [y] ++ p := rfl
    rw [hy, tagged_append, isInterior_append] at hi
    rw [hy, tagged_append] at hno
    rcases List.mem_cons.mp hx with rfl | hx
    · have hbracket : x ≠ code '[' ∧ x ≠ code ']' := by
        constructor
        · rintro rfl
          exact hno ('[', .code) List.mem_cons_self ⟨rfl, Or.inl rfl⟩
        · rintro rfl
          exact hno (']', .code) List.mem_cons_self ⟨rfl, Or.inr rfl⟩
      rw [Bool.eq_false_iff]
      intro hf
      exact not_isInterior_of_isFence hf hbracket ha hi.1
    · have ha' : Anchored (p ++ q) := Anchored.of_append (p := [y]) ha
      exact not_isFence_of_isInterior ha' (fun z hz => hno z (List.mem_append_right _ hz)) hi.2 x hx

/-! ## Slack and trimmed interiors -/

theorem isTrimmable_of_isSlack {c : Char} (hc : isSlack c = true) : Text.isTrimmable c = true := by
  simp only [isSlack, Bool.and_eq_true] at hc
  exact hc.1.1

theorem isSlack_of_isTrimmable {c : Char} (hc : Text.isTrimmable c = true) (hline : c ≠ '\n' ∧ c ≠ '\r') :
    isSlack c = true := by
  simp [isSlack, hc, hline.1, hline.2]

/-- On one line, trimming is stripping slack. -/
theorem strippedOf_isSlack {s : List Char} (hline : ∀ c ∈ s, c ≠ '\n' ∧ c ≠ '\r') :
    Text.strippedOf isSlack s = Text.trim s := by
  obtain ⟨a, b, hs, ha, hb⟩ := Text.exists_strippedOf Text.isTrimmable s
  rw [← Text.trim_eq_strippedOf] at hs
  have hmem : ∀ c, c ∈ a ∨ c ∈ b → c ∈ s := by
    intro c hc
    rw [hs]
    rcases hc with hc | hc <;> simp [hc]
  have hsolid : Text.Solid isSlack (Text.trim s) := by
    have h := Text.solid_trim s
    refine ⟨fun c hc => ?_, fun c hc => ?_⟩
    · simp [isSlack, h.1 c hc]
    · simp [isSlack, h.2 c hc]
  conv_lhs => rw [hs]
  apply Text.strippedOf_append _ hsolid
  · intro c hc
    exact isSlack_of_isTrimmable (hb c hc) (hline c (hmem c (Or.inr hc)))
  · intro c hc
    exact isSlack_of_isTrimmable (ha c hc) (hline c (hmem c (Or.inl hc)))

theorem not_isFence_of_isSlack {c : Char} (hc : isSlack c = true) : Bracket.isFence c = false := by
  rw [Bool.eq_false_iff]
  intro hf
  simp only [Bracket.isFence, Bool.or_eq_true, beq_iff_eq] at hf
  rcases hf with ((rfl | rfl) | rfl) | rfl <;> revert hc <;> decide

/-- What is padded depends on the trimmed interior only, unless that is empty or taken for a character class. -/
theorem spaced_of_trim {s : List Char} (hblank : Text.trim s ≠ [])
    (hguard : guard = false ∨ Bracket.isClassLike (Text.trim s) = false) :
    Bracket.alphabet.spaced guard s = ' ' :: (Text.trim s ++ [' ']) := by
  have hclass : guard = false ∨ Bracket.isClassLike s = false := by
    apply hguard.imp_right
    intro ht
    have hall : (Text.trim s).all Bracket.isClassChar = false := by simpa [Bracket.isClassLike, hblank] using ht
    obtain ⟨c, hc, hno⟩ := List.all_eq_false.mp hall
    have hmem : c ∈ s := Text.mem_of_mem_strippedOf (by rwa [← Text.trim_eq_strippedOf])
    have hs : s.all Bracket.isClassChar = false := List.all_eq_false.mpr ⟨c, hmem, hno⟩
    simp [Bracket.isClassLike, hs]
  have hkept : Bracket.isKept guard s = false := by
    rw [Bracket.isKept, Bool.or_eq_false_iff, Bool.and_eq_false_iff, List.isEmpty_eq_false_iff]
    exact ⟨hblank, hclass⟩
  rw [Alphabet.spaced, ← Bracket.isKept_eq, hkept, ← Bracket.trim_eq]
  rfl

/-! ## The pair after the exchange -/

/-- Exchanging the slack of a pair gives pieces that differ in slack inside brackets. The pair is still a pair, with the
same trimmed interior. -/
theorem exists_respaced_of_isPair (ha : Anchored p) (h : IsPair (Piece.tagged p) before interior after)
    (hi : IsInterior through interior) (hleft : ∀ c ∈ left, isSlack c = true) (hright : ∀ c ∈ right, isSlack c = true) :
    ∃ q inside, Respaced p q ∧ joined q = repadded before interior after left right ∧
      IsPair (Piece.tagged q) before inside after ∧ IsInterior through inside ∧
      Text.trim (inside.map Prod.fst) = Text.trim (interior.map Prod.fst) := by
  obtain ⟨front, i, back, rfl, rfl, rfl, rfl⟩ := exists_of_isPair h
  have hanchored : Anchored (i ++ code ']' :: back) :=
    Anchored.of_append (p := front ++ [code '[']) (by simpa using ha)
  have hfence : ∀ x ∈ i, x.isFence through = false := not_isFence_of_isInterior hanchored h.no_bracket hi
  have htrim : Text.trim (joined i) = joined ((alphabet through).trim i) := trim_joined hanchored hfence
  obtain ⟨a, b, he, hta, htb⟩ := exists_trim through i
  have hsa : ∀ c ∈ a, isSlack c = true := fun c hc =>
    isSlack_of_not_isFence (hta c hc) (hfence _ (by rw [he]; simp [mem_codes hc]))
  have hsb : ∀ c ∈ b, isSlack c = true := fun c hc =>
    isSlack_of_not_isFence (htb c hc) (hfence _ (by rw [he]; simp [mem_codes hc]))
  -- The new interior has no fences either, so it is one that a span may go through.
  have hslack : ∀ {s : List Char}, (∀ c ∈ s, isSlack c = true) → ∀ x ∈ codes s, x.isFence through = false := by
    intro s hs x hx
    obtain ⟨c, hc, rfl⟩ := List.mem_map.mp hx
    exact not_isFence_of_isSlack (hs c hc)
  have hinside : ∀ x ∈ codes left ++ (alphabet through).trim i ++ codes right, x.isFence through = false := by
    intro x hx
    rw [List.mem_append, List.mem_append] at hx
    rcases hx with (hx | hx) | hx
    · exact hslack hleft x hx
    · exact hfence x (Text.mem_of_mem_strippedOf hx)
    · exact hslack hright x hx
  have hline : ∀ c ∈ joined i, c ≠ '\n' ∧ c ≠ '\r' := by
    intro c hc
    rw [← map_fst_tagged] at hc
    obtain ⟨x, hx, rfl⟩ := List.mem_map.mp hc
    exact ⟨(hi x hx).1, (hi x hx).2.1⟩
  refine ⟨front ++ code '[' :: (codes left ++ (alphabet through).trim i ++ codes right ++ code ']' :: back),
    Piece.tagged (codes left ++ (alphabet through).trim i ++ codes right), ?_, ?_, ⟨?_, ?_⟩,
    isInterior_tagged hinside, ?_⟩
  · apply Respaced.append_left
    have hback : Respaced back back := by simpa using Respaced.append_left .nil back
    have hend : Respaced (codes b ++ code ']' :: back) (codes right ++ code ']' :: back) := .closing hsb hright hback
    have hspan := Respaced.opening hsa hleft (hend.append_left ((alphabet through).trim i))
    have hi' : i ++ code ']' :: back = codes a ++ ((alphabet through).trim i ++ (codes b ++ code ']' :: back)) := by
      rw [← List.append_assoc, ← List.append_assoc, ← he]
    rw [hi']
    simpa using hspan
  · rw [repadded, map_fst_tagged, map_fst_tagged, map_fst_tagged, strippedOf_isSlack hline, htrim]
    simp
  · rw [tagged_append, Piece.tagged, tagged_append, Piece.tagged]
  · exact not_bracket_of_mem_tagged fun x hx => ne_bracket_of_not_isFence (hinside x hx)
  · rw [map_fst_tagged, map_fst_tagged, joined_append, joined_append, joined_codes, joined_codes, ← htrim]
    apply Text.trim_append
    · exact fun c hc => isTrimmable_of_isSlack (hleft c hc)
    · exact Text.solid_trim (joined i)
    · exact fun c hc => isTrimmable_of_isSlack (hright c hc)

/-! ## Normalizing -/

theorem kind_of_mem_tagged_raw {x : Char × Kind} (hx : x ∈ Segment.tagged (Strategy.raw.segments text)) :
    x.2 = .code := by
  rw [← tagged_ofSegments, ofSegments_segments_raw, tagged_codes] at hx
  obtain ⟨c, -, rfl⟩ := List.mem_map.mp hx
  rfl

/-- **Padding that is there already does not matter.** If the slack next to the inside of two brackets is exchanged,
which follow each other in the code on one line, the normalized text stays the same, unless nothing is left of the
interior when it is trimmed or the guard takes what is left for a character class. -/
theorem text_normalizeWith_repadded (h : 1 ≤ limit) (guard : Bool)
    (hmarks : strategy = .php → ∀ c ∈ text, c ≠ '\uE000' ∧ c ≠ '\uE001')
    (hpair : IsPair (Segment.tagged (strategy.segments text)) before interior after)
    (hline : ∀ x ∈ interior, x.1 ≠ '\n' ∧ x.1 ≠ '\r') (hleft : ∀ c ∈ left, isSlack c = true)
    (hright : ∀ c ∈ right, isSlack c = true) (hblank : Text.trim (interior.map Prod.fst) ≠ [])
    (hguard : guard = false ∨ Bracket.isClassLike (Text.trim (interior.map Prod.fst)) = false) :
    (normalizeWith strategy guard limit (repadded before interior after left right)).text =
      (normalizeWith strategy guard limit text).text := by
  have hi : IsInterior (!text.any isDelimiter) interior := by
    intro x hx
    refine ⟨(hline x hx).1, (hline x hx).2, ?_⟩
    cases strategy with
    | php =>
      left
      rw [any_isDelimiter_eq_false (hmarks rfl)]
      rfl
    | raw =>
      right
      exact kind_of_mem_tagged_raw (by rw [hpair.split]; simp [hx])
  have hpieces := hpair
  rw [← tagged_ofSegments] at hpieces
  obtain ⟨q, inside, hspaced, hjoined, hpair', hinside, htrim⟩ :=
    exists_respaced_of_isPair (anchored_segments strategy text) hpieces hi hleft hright
  have htagged : Segment.tagged (strategy.segments (repadded before interior after left right)) = Piece.tagged q := by
    rw [← hjoined, ← tagged_ofSegments, ofSegments_segments_joined hspaced]
  have hany : (repadded before interior after left right).any isDelimiter = text.any isDelimiter := by
    rw [← hjoined, any_isDelimiter_of_respaced hspaced]
  have hsame : rewriteInterior guard (inside.map Prod.fst) = rewriteInterior guard (interior.map Prod.fst) := by
    rw [rewriteInterior_eq_spaced, rewriteInterior_eq_spaced, spaced_of_trim hblank hguard,
      spaced_of_trim (by rwa [htrim]) (by rwa [htrim]), htrim]
  rw [text_normalizeWith_eq_rewriteCode_segments h, text_normalizeWith_eq_rewriteCode_segments h, htagged, hany,
    rewriteCode_pair guard _ hpair', rewriteCode_pair guard _ hpair, if_pos hinside, if_pos hi, hsame]

theorem text_normalizeWith_repadded_invisible : 1 ≤ 1 ∧
    (∀ c ∈ "<?php $a=[ 'x[',$b\u3000];".toList, c ≠ '\uE000' ∧ c ≠ '\uE001') ∧
    IsPair (Segment.tagged (Strategy.php.segments "<?php $a=[ 'x[',$b\u3000];".toList))
      (Segment.tagged [Segment.code "<?php $a=".toList])
      (Segment.tagged [Segment.code " ".toList, Segment.literal "'x['".toList, Segment.code ",$b\u3000".toList])
      (Segment.tagged [Segment.code ";".toList]) ∧
    (∀ c ∈ "\uFEFF\x00".toList, isSlack c = true) ∧
    Text.trim " 'x[',$b\u3000".toList = "'x[',$b".toList ∧ Bracket.isClassLike "'x[',$b".toList = false ∧
    (normalizeWith .php true 1 "<?php $a=[\uFEFF\x00'x[',$b];".toList).text =
      (normalizeWith .php true 1 "<?php $a=[ 'x[',$b\u3000];".toList).text := by
  have hd : ∀ c ∈ "<?php $a=[ 'x[',$b\u3000];".toList, c ≠ '\uE000' ∧ c ≠ '\uE001' := by simp
  have hs : Strategy.php.segments "<?php $a=[ 'x[',$b\u3000];".toList =
      [Segment.code "<?php $a=[ ".toList, Segment.literal "'x['".toList, Segment.code ",$b\u3000];".toList] := by cbv
  have hpair : IsPair (Segment.tagged (Strategy.php.segments "<?php $a=[ 'x[',$b\u3000];".toList))
      (Segment.tagged [Segment.code "<?php $a=".toList])
      (Segment.tagged [Segment.code " ".toList, Segment.literal "'x['".toList, Segment.code ",$b\u3000".toList])
      (Segment.tagged [Segment.code ";".toList]) :=
    ⟨by rw [hs]; simp [Segment.tagged], by simp [Segment.tagged]⟩
  have hslack : ∀ c ∈ "\uFEFF\x00".toList, isSlack c = true := by simp; decide
  have ht : Text.trim " 'x[',$b\u3000".toList = "'x[',$b".toList := by cbv
  have hclass : Bracket.isClassLike "'x[',$b".toList = false := by cbv
  have hinterior : (Segment.tagged [Segment.code " ".toList, Segment.literal "'x['".toList,
      Segment.code ",$b\u3000".toList]).map Prod.fst = " 'x[',$b\u3000".toList := by simp [Segment.tagged]
  have hnone : ∀ c ∈ ([] : List Char), isSlack c = true := by simp
  have h := text_normalizeWith_repadded (Nat.le_refl 1) true (fun _ => hd) hpair (by simp [Segment.tagged]) hslack hnone
    (by rw [hinterior, ht]; simp) (Or.inr (by rw [hinterior, ht]; exact hclass))
  have hrepadded : repadded (Segment.tagged [Segment.code "<?php $a=".toList])
      (Segment.tagged [Segment.code " ".toList, Segment.literal "'x['".toList, Segment.code ",$b\u3000".toList])
      (Segment.tagged [Segment.code ";".toList]) "\uFEFF\x00".toList [] = "<?php $a=[\uFEFF\x00'x[',$b];".toList := by
    cbv
  rw [hrepadded] at h
  exact ⟨Nat.le_refl 1, hd, hpair, hslack, ht, hclass, h⟩

end BracketSpacing
