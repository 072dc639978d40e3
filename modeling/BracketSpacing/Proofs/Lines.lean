import BracketSpacing.Proofs.Conservation

/-!
# Lines of code by themselves

* No span goes over a line break, so a sweep over code is a sweep over what is before a line break and one over what is
  after it (`padAll_append_lineBreak`).
* A sweep keeps the number of line breaks, so the line break can be found again, and what a sweep changes on one side
  cannot make up for what it changes on the other (`padAll_append_eq_self_iff`).
* `normalizeWith_raw_append`: hence a text that is all code is normalized line by line.
-/

namespace BracketSpacing

open Piece

variable {c : Char}

/-! ## Sweeps over lines -/

theorem isFence_of_isLineBreak (hc : isLineBreak c = true) : Bracket.isFence c = true ∧ c ≠ ']' := by
  simp only [isLineBreak, Bool.or_eq_true, beq_iff_eq] at hc
  rcases hc with rfl | rfl <;> decide

/-- What is before a line break is swept by itself, and so is what is after it. -/
theorem padAll_append_lineBreak (hc : isLineBreak c = true) (guard : Bool) (s t : List Char) :
    Bracket.padAll guard (s ++ c :: t) = Bracket.padAll guard s ++ c :: Bracket.padAll guard t := by
  obtain ⟨hfence, hclosing⟩ := isFence_of_isLineBreak hc
  have hopening : c ≠ '[' := by
    rintro rfl
    cases hc
  have hrest : ∀ x ∈ (codes (c :: t)).head?, x.isFence true = true ∧ x ≠ code ']' := by
    rintro x ⟨⟩
    exact ⟨by simpa [isFence] using hfence, by simpa using hclosing⟩
  have hrest' : codes (c :: Bracket.padAll guard t) = (alphabet true).padAll guard (codes (c :: t)) := by
    rw [padAll_codes, Bracket.padAll, if_neg hopening]
  have hpieces : (alphabet true).padAll guard (codes (s ++ c :: t)) =
      codes (Bracket.padAll guard s) ++ codes (c :: Bracket.padAll guard t) := by
    rw [hrest', ← padAll_codes_append hrest, codes, codes, codes, List.map_append]
  have htext := congrArg joined hpieces
  rwa [padAll_codes, joined_append, joined_codes, joined_codes, joined_codes] at htext

/-- A text that is cut at a character is told by it if the parts before it hold that character equally often. -/
theorem append_cons_inj_of_count {α : Type} [BEq α] [LawfulBEq α] {x : α} : ∀ {s s' t t' : List α},
    s.count x = s'.count x → s ++ x :: t = s' ++ x :: t' → s = s' ∧ t = t'
  | [], [], _, _, _, h => ⟨rfl, (List.cons.inj h).2⟩
  | [], y :: s', _, _, hcount, h => by
    obtain ⟨rfl, -⟩ := List.cons.inj h
    simp at hcount
  | y :: s, [], _, _, hcount, h => by
    obtain ⟨rfl, -⟩ := List.cons.inj h
    simp at hcount
  | y :: s, z :: s', _, _, hcount, h => by
    obtain ⟨rfl, htail⟩ := List.cons.inj h
    have hcount' : s.count x = s'.count x := by
      rw [List.count_cons, List.count_cons] at hcount
      omega
    obtain ⟨rfl, rfl⟩ := append_cons_inj_of_count hcount' htail
    exact ⟨rfl, rfl⟩

/-- A sweep alters a text exactly if it alters what is before a line break or what is after it. -/
theorem padAll_append_eq_self_iff (hc : isLineBreak c = true) (guard : Bool) (s t : List Char) :
    Bracket.padAll guard (s ++ c :: t) = s ++ c :: t ↔ Bracket.padAll guard s = s ∧ Bracket.padAll guard t = t := by
  rw [padAll_append_lineBreak hc]
  constructor
  · exact append_cons_inj_of_count (count_eq_of_withoutSlack (withoutSlack_padAll guard s) (isSlack_of_isLineBreak hc))
  · rintro ⟨hs, ht⟩
    rw [hs, ht]

/-! ## Normalizing line by line -/

theorem settleText_raw (guard : Bool) (limit : Nat) (text : List Char) :
    settleText guard limit (Strategy.raw.segments text) text = settleCode guard limit text :=
  if_pos (all_isCode_segments_raw text)

/-- Without a pass nothing is changed and nothing is known. -/
theorem normalizeWith_raw_zero (guard : Bool) (text : List Char) :
    normalizeWith .raw guard 0 text = ⟨text, false, 0, false⟩ := by
  have hsettled : settleCode guard 0 text = ⟨text, 0, false⟩ := rfl
  simp [normalizeWith, settleText_raw, hsettled]

/-- Where all is code, the outcome is told by one sweep. -/
theorem normalizeWith_raw_eq {limit : Nat} (h : 1 ≤ limit) (guard : Bool) (text : List Char) :
    normalizeWith .raw guard limit text =
      if Bracket.padAll guard text = text then ⟨text, false, 1, true⟩
      else ⟨Bracket.padAll guard text, true, min limit 2, decide (2 ≤ limit)⟩ := by
  by_cases hself : Bracket.padAll guard text = text <;>
    simp [normalizeWith, settleText_raw, settleCode_eq h, hself]

/-- **Line by line.** A text that is all code is normalized by normalizing what is before a line break and what is after
it. It is changed exactly if one of the two parts is, takes as many passes as the one of them that takes more, and
converges if both do. -/
theorem normalizeWith_raw_append (hc : c = '\n' ∨ c = '\r') (guard : Bool) (limit : Nat) (a b : List Char) :
    normalizeWith .raw guard limit (a ++ c :: b) =
      ⟨(normalizeWith .raw guard limit a).text ++ c :: (normalizeWith .raw guard limit b).text,
        (normalizeWith .raw guard limit a).changed || (normalizeWith .raw guard limit b).changed,
        max (normalizeWith .raw guard limit a).passes (normalizeWith .raw guard limit b).passes,
        (normalizeWith .raw guard limit a).converged && (normalizeWith .raw guard limit b).converged⟩ := by
  have hbreak : isLineBreak c = true := by rcases hc with rfl | rfl <;> rfl
  rcases Nat.eq_zero_or_pos limit with rfl | hlimit
  · simp only [normalizeWith_raw_zero]
    rfl
  · have hself := padAll_append_eq_self_iff hbreak guard a b
    rw [padAll_append_lineBreak hbreak] at hself
    have htwo : max 1 (min limit 2) = min limit 2 ∧ max (min limit 2) 1 = min limit 2 := by omega
    simp only [normalizeWith_raw_eq hlimit, padAll_append_lineBreak hbreak, hself]
    by_cases ha : Bracket.padAll guard a = a <;> by_cases hb : Bracket.padAll guard b = b <;> simp [ha, hb, htwo]

theorem normalizeWith_raw_append_unbalanced : ('\r' = '\n' ∨ '\r' = '\r') ∧
    normalizeWith .raw false 2 ("[1,[a][".toList ++ '\r' :: "]],[ 2 ]]".toList) =
      ⟨"[1,[ a ][".toList ++ '\r' :: "]],[ 2 ]]".toList, true, 2, true⟩ := by
  have ha : normalizeWith .raw false 2 "[1,[a][".toList = ⟨"[1,[ a ][".toList, true, 2, true⟩ := by cbv
  have hb : normalizeWith .raw false 2 "]],[ 2 ]]".toList = ⟨"]],[ 2 ]]".toList, false, 1, true⟩ := by cbv
  have hreturn : '\r' = '\n' ∨ '\r' = '\r' := Or.inr rfl
  have h := normalizeWith_raw_append hreturn false 2 "[1,[a][".toList "]],[ 2 ]]".toList
  rw [ha, hb] at h
  exact ⟨hreturn, h⟩

end BracketSpacing
