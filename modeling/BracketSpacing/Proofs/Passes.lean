import BracketSpacing.Proofs.Normalization

/-!
# One pass is enough

* `sweptTexts`: the texts that sweeps are repeated over when a text is normalized. There is one for each code segment
  of a text with mark characters, and else just one.
* Passes and convergence are decided by whether a sweep alters one of them (`passes_settleText`,
  `converged_settleText`).
* A sweep alters one of them exactly if it alters the text (`text_normalizeWith_eq_self_iff`): what is cut, masked and
  put back cannot cancel out, for the segments of the result are those of the text with their spans padded.
* Hence the number of passes and convergence are told by the two texts and the limit (`normalizeWith_passes`).
-/

namespace BracketSpacing

open Piece Placeholder

variable {guard : Bool} {limit : Nat} {strategy : Strategy} {text : List Char} {segments : List Segment}

/-! ## What sweeps are repeated over -/

/-- The texts of the code segments. -/
def codeTexts (segments : List Segment) : List (List Char) :=
  (segments.filter Segment.isCode).map (·.text)

/-- The texts that sweeps are repeated over: the whole text if it is code, each code segment by itself if the text holds
mark characters, and else the code with marks for literals. -/
def sweptTexts (segments : List Segment) (text : List Char) : List (List Char) :=
  if segments.all Segment.isCode then [text]
  else if text.any isDelimiter then codeTexts segments
  else [mask segments]

@[simp] theorem codeTexts_nil : codeTexts [] = [] := rfl

@[simp] theorem codeTexts_code (s : List Char) (segments : List Segment) :
    codeTexts (Segment.code s :: segments) = s :: codeTexts segments := rfl

@[simp] theorem codeTexts_literal (s : List Char) (segments : List Segment) :
    codeTexts (Segment.literal s :: segments) = codeTexts segments := rfl

theorem codeTexts_eq_nil_iff : codeTexts segments = [] ↔ ∀ s ∈ segments, s.isCode = false := by
  simp [codeTexts]

/-- There is nothing to sweep just if a text with mark characters is cut into literals only. -/
theorem sweptTexts_eq_nil_iff : sweptTexts segments text = [] ↔
    text.any isDelimiter = true ∧ segments ≠ [] ∧ ∀ s ∈ segments, s.isCode = false := by
  rw [← codeTexts_eq_nil_iff, sweptTexts]
  cases segments with
  | nil => simp
  | cons s segments =>
    split
    · rename_i hall
      have hs : s.isCode = true := (List.all_eq_true.mp hall) s List.mem_cons_self
      simp [codeTexts, hs]
    · split <;> simp_all

/-! ## Passes over several texts -/

/-- Sweeps over a text alter it once or never. -/
theorem settleCode_eq (h : 1 ≤ limit) (guard : Bool) (text : List Char) : settleCode guard limit text =
    if Bracket.padAll guard text = text then ⟨text, 1, true⟩
    else ⟨Bracket.padAll guard text, min limit 2, decide (2 ≤ limit)⟩ := by
  split
  · rename_i hf
    exact settleCode_of_fixed h hf
  · rename_i hf
    exact settle_of_idempotent (Bracket.padAll_padAll guard text) hf h

theorem passes_settleSegments (guard : Bool) (limit : Nat) : ∀ segments : List Segment,
    (settleSegments guard limit segments).passes =
      ((codeTexts segments).map fun u => (settleCode guard limit u).passes).foldr max 0
  | [] => rfl
  | ⟨.code, s⟩ :: segments => by
    rw [settleSegments, passes_settleSegments guard limit segments, codeTexts_code, List.map_cons, List.foldr_cons]
  | ⟨.literal, s⟩ :: segments => by
    rw [settleSegments, passes_settleSegments guard limit segments, codeTexts_literal]

theorem converged_settleSegments (guard : Bool) (limit : Nat) : ∀ segments : List Segment,
    (settleSegments guard limit segments).converged =
      (codeTexts segments).all fun u => (settleCode guard limit u).converged
  | [] => rfl
  | ⟨.code, s⟩ :: segments => by
    rw [settleSegments, converged_settleSegments guard limit segments, codeTexts_code, List.all_cons]
  | ⟨.literal, s⟩ :: segments => by
    rw [settleSegments, converged_settleSegments guard limit segments, codeTexts_literal]

/-- The most passes that one of the texts takes. -/
theorem foldr_max_passes (h : 1 ≤ limit) (guard : Bool) : ∀ texts : List (List Char),
    (texts.map fun u => (settleCode guard limit u).passes).foldr max 0 =
      if texts = [] then 0 else if (∃ u ∈ texts, Bracket.padAll guard u ≠ u) ∧ 2 ≤ limit then 2 else 1
  | [] => rfl
  | u :: texts => by
    rw [List.map_cons, List.foldr_cons, foldr_max_passes h guard texts, settleCode_eq h]
    by_cases hu : Bracket.padAll guard u = u
    · rcases texts with _ | ⟨v, texts⟩
      · simp [hu]
      · simp only [hu, List.exists_mem_cons_iff, ne_eq, not_true_eq_false, false_or, if_true, reduceCtorEq, if_false]
        split <;> rfl
    · simp only [hu, List.exists_mem_cons_iff, ne_eq, not_false_eq_true, true_or, true_and, if_false, reduceCtorEq]
      split <;> split <;> (try split) <;> omega

theorem passes_settleText (h : 1 ≤ limit) (guard : Bool) (segments : List Segment) (text : List Char) :
    (settleText guard limit segments text).passes =
      if sweptTexts segments text = [] then 0
      else if (∃ u ∈ sweptTexts segments text, Bracket.padAll guard u ≠ u) ∧ 2 ≤ limit then 2 else 1 := by
  rw [← foldr_max_passes h, settleText, sweptTexts]
  split
  · simp
  · split
    · exact passes_settleSegments guard limit segments
    · simp [settleMasked]

theorem converged_settleText (h : 1 ≤ limit) (guard : Bool) (segments : List Segment) (text : List Char) :
    (settleText guard limit segments text).converged = true ↔
      2 ≤ limit ∨ ∀ u ∈ sweptTexts segments text, Bracket.padAll guard u = u := by
  have hall : (settleText guard limit segments text).converged =
      (sweptTexts segments text).all fun u => (settleCode guard limit u).converged := by
    rw [settleText, sweptTexts]
    split
    · simp
    · split
      · exact converged_settleSegments guard limit segments
      · simp [settleMasked]
  have hone : ∀ u, (settleCode guard limit u).converged = true ↔ 2 ≤ limit ∨ Bracket.padAll guard u = u := by
    intro u
    rw [settleCode_eq h]
    split <;> simp_all
  rw [hall, List.all_eq_true]
  simp only [hone]
  by_cases hl : 2 ≤ limit <;> simp [hl]

/-! ## Nothing cancels out -/

theorem text_normalizeWith_raw (h : 1 ≤ limit) (guard : Bool) (text : List Char) :
    (normalizeWith .raw guard limit text).text = Bracket.padAll guard text := by
  simp only [normalizeWith, settleText]
  rw [if_pos (all_isCode_segments_raw text), settleCode_text h]

/-- The normalized text is the same for all limits. -/
theorem text_normalizeWith_limit {limit₁ limit₂ : Nat} (h₁ : 1 ≤ limit₁) (h₂ : 1 ≤ limit₂) (strategy : Strategy)
    (guard : Bool) (text : List Char) :
    (normalizeWith strategy guard limit₁ text).text = (normalizeWith strategy guard limit₂ text).text := by
  cases strategy with
  | php => rw [text_normalizeWith_php h₁, text_normalizeWith_php h₂]
  | raw => rw [text_normalizeWith_raw h₁, text_normalizeWith_raw h₂]

/-- Padding each code segment leaves the segments as they are if it leaves each code text as it is. -/
theorem padSegments_eq_self_iff : ∀ {segments : List Segment},
    padSegments guard segments = segments ↔ ∀ u ∈ codeTexts segments, Bracket.padAll guard u = u
  | [] => by simp [padSegments]
  | ⟨.code, s⟩ :: segments => by
    have ih : padSegments guard segments = segments ↔ ∀ u ∈ codeTexts segments, Bracket.padAll guard u = u :=
      padSegments_eq_self_iff
    rw [padSegments, codeTexts_code, List.forall_mem_cons, ← ih]
    simp
  | ⟨.literal, s⟩ :: segments => by
    have ih : padSegments guard segments = segments ↔ ∀ u ∈ codeTexts segments, Bracket.padAll guard u = u :=
      padSegments_eq_self_iff
    rw [padSegments, codeTexts_literal, ← ih]
    simp

/-- Segments tell what a sweep through no literal has done to each of them. -/
theorem swept_false_eq_self_iff :
    swept guard false text = text ↔ ∀ u ∈ codeTexts (Strategy.php.segments text), Bracket.padAll guard u = u := by
  rw [← padSegments_eq_self_iff]
  constructor
  · intro h
    rw [← segments_swept_false, h]
  · intro h
    rw [swept_false, h]
    exact Strategy.joined_segments .php text

/-- The pieces of the text tell what a sweep through literals on one line has done to its masked code. -/
theorem swept_true_eq_self_iff (hd : text.any isDelimiter = false) :
    swept guard true text = text ↔
      Bracket.padAll guard (mask (Strategy.php.segments text)) = mask (Strategy.php.segments text) := by
  have hj : Segment.joined (Strategy.php.segments text) = text := Strategy.joined_segments .php text
  constructor
  · intro h
    have hpieces : (alphabet true).padAll guard (ofSegments (Strategy.php.segments text)) =
        ofSegments (Strategy.php.segments text) := by
      rw [← ofSegments_merged ((alphabet true).padAll guard _), ← segments_swept, h]
    rw [mask, maskFrom_eq_masked, padAll_masked, hpieces]
  · intro h
    have hclean : (joined (ofSegments (Strategy.php.segments text))).any isDelimiter = false := by
      rw [joined_ofSegments, hj, hd]
    have hrestored : restore (literals (Strategy.php.segments text)).toArray (mask (Strategy.php.segments text)) =
        text := by
      rw [mask, maskFrom_eq_masked, ← literals_ofSegments, restore_literals hclean, joined_ofSegments, hj]
    have hsettled : (settleMasked guard 1 (Strategy.php.segments text)).text = swept guard true text :=
      settleMasked_text (Nat.le_refl 1) (by rw [hj, hd])
    simp only [settleMasked] at hsettled
    rw [settleCode_of_fixed (Nat.le_refl 1) h, hrestored] at hsettled
    exact hsettled.symm

/-- A text is normalized to itself exactly if sweeps leave all as it is that they are repeated over. -/
theorem text_normalizeWith_eq_self_iff (h : 1 ≤ limit) :
    (normalizeWith strategy guard limit text).text = text ↔
      ∀ u ∈ sweptTexts (strategy.segments text) text, Bracket.padAll guard u = u := by
  cases strategy with
  | raw =>
    rw [text_normalizeWith_raw h, sweptTexts, if_pos (all_isCode_segments_raw text)]
    simp
  | php =>
    rw [text_normalizeWith_php h, sweptTexts]
    split
    · rename_i hall
      rw [swept_of_all_isCode hall]
      simp
    · split
      · rename_i hd
        rw [hd, Bool.not_true]
        exact swept_false_eq_self_iff
      · rename_i hd
        rw [Bool.not_eq_true] at hd
        rw [hd, Bool.not_false, swept_true_eq_self_iff hd]
        simp

/-- **One pass is enough.** The normalized text is the same for all limits. Passes have converged exactly if there may
be two or the text is unchanged. There are two if the text is changed and there may be two, none if a text with mark
characters holds literals only, and else one. The text is changed exactly if repeated sweeps have altered one of the
texts that they are repeated over, and they are repeated twice at most. -/
theorem normalizeWith_passes (h : 1 ≤ limit) (strategy : Strategy) (guard : Bool) (text : List Char) :
    (∀ other, 1 ≤ other →
      (normalizeWith strategy guard other text).text = (normalizeWith strategy guard limit text).text) ∧
    ((normalizeWith strategy guard limit text).converged = true ↔
      2 ≤ limit ∨ (normalizeWith strategy guard limit text).text = text) ∧
    (normalizeWith strategy guard limit text).passes =
      (if text.any isDelimiter = true ∧ strategy.segments text ≠ [] ∧
          ∀ s ∈ strategy.segments text, s.isCode = false then 0
        else if (normalizeWith strategy guard limit text).text ≠ text ∧ 2 ≤ limit then 2
        else 1) ∧
    ((normalizeWith strategy guard limit text).changed = true ↔
      ∃ u ∈ sweptTexts (strategy.segments text) text, (settleCode guard limit u).text ≠ u) ∧
    ∀ u ∈ sweptTexts (strategy.segments text) text, (settleCode guard limit u).passes ≤ 2 := by
  have hself : (normalizeWith strategy guard limit text).text = text ↔
      ∀ u ∈ sweptTexts (strategy.segments text) text, Bracket.padAll guard u = u :=
    text_normalizeWith_eq_self_iff h
  have hmoved : (normalizeWith strategy guard limit text).text ≠ text ↔
      ∃ u ∈ sweptTexts (strategy.segments text) text, Bracket.padAll guard u ≠ u := by
    rw [ne_eq, hself]
    simp
  refine ⟨fun other ho => text_normalizeWith_limit ho h strategy guard text, ?_, ?_, ?_, ?_⟩
  · rw [hself]
    exact converged_settleText h guard _ text
  · simp only [hmoved, ← sweptTexts_eq_nil_iff]
    exact passes_settleText h guard _ text
  · have hchanged : (normalizeWith strategy guard limit text).changed = true ↔
        (normalizeWith strategy guard limit text).text ≠ text := by simp [normalizeWith]
    rw [hchanged, hmoved]
    simp only [settleCode_text h]
  · intro u _
    rw [settleCode_eq h]
    split
    · exact Nat.le_succ 1
    · exact Nat.min_le_right limit 2

theorem normalizeWith_passes_marks : 1 ≤ 1 ∧
    (∀ other, 1 ≤ other →
      (normalizeWith .php true other "[\uE000,'[,]'],[$c]".toList).text = "[\uE000,'[,]'],[ $c ]".toList) ∧
    (normalizeWith .php true 1 "[\uE000,'[,]'],[$c]".toList).converged = false ∧
    (normalizeWith .php true 1 "[\uE000,'[,]'],[$c]".toList).passes = 1 ∧
    (normalizeWith .php true 1 "[\uE000,'[,]'],[$c]".toList).changed = true ∧
    ∃ u ∈ ["[\uE000,".toList, "],[$c]".toList], (settleCode true 1 u).text ≠ u ∧ (settleCode true 1 u).passes ≤ 2 := by
  have ht : (normalizeWith .php true 1 "[\uE000,'[,]'],[$c]".toList).text = "[\uE000,'[,]'],[ $c ]".toList := by cbv
  have hs : sweptTexts (Strategy.php.segments "[\uE000,'[,]'],[$c]".toList) "[\uE000,'[,]'],[$c]".toList =
      ["[\uE000,".toList, "],[$c]".toList] := by cbv
  have hc : (normalizeWith .php true 1 "[\uE000,'[,]'],[$c]".toList).changed = true := by
    simp only [normalizeWith] at ht ⊢
    rw [ht]
    decide
  obtain ⟨hsame, hconverged, hpasses, hchanged, hloops⟩ :=
    normalizeWith_passes (Nat.le_refl 1) .php true "[\uE000,'[,]'],[$c]".toList
  rw [hs] at hchanged hloops
  obtain ⟨u, hu, hne⟩ := hchanged.mp hc
  refine ⟨Nat.le_refl 1, fun other ho => (hsame other ho).trans ht, ?_, ?_, hc, u, hu, hne, hloops u hu⟩
  · rw [← Bool.not_eq_true, hconverged, ht]
    decide
  · have hsome :
        ¬(sweptTexts (Strategy.php.segments "[\uE000,'[,]'],[$c]".toList) "[\uE000,'[,]'],[$c]".toList = []) := by
      rw [hs]
      exact List.cons_ne_nil _ _
    rw [sweptTexts_eq_nil_iff] at hsome
    rw [hpasses, if_neg hsome, if_neg fun hl => absurd hl.2 (by decide)]

end BracketSpacing
