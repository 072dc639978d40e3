import Mathlib
import BracketSpacing.Proofs.Absorption
import BracketSpacing.Proofs.Partition

/-!
# A margin in front of a text

* A margin is made of what may stand before the first tag of a template: byte order marks, blanks and line breaks. No
  tag and no literal starts with one of them, and none of them is a bracket.
* The pieces of a text with a margin are those of the margin and of the text (`ofSegments_segments_margin`), so its
  segments are those of the text with the margin in front as code (`segments_margin`).
* `normalizeWith_margin`: hence normalizing leaves the margin where it is and the text as it would be without it.
-/

namespace BracketSpacing

open Piece Placeholder

/-! ## Segments of a text with a margin -/

variable {w t : List Char} {limit : Nat}

/-- Nothing starts with a character of the margin. -/
theorem isInert_of_isTemplateMargin {c : Char} (hc : isTemplateMargin c = true) : IsInert c := by
  rw [isTemplateMargin_iff] at hc
  simp only [List.mem_cons, List.not_mem_nil, or_false] at hc
  rcases hc with rfl | rfl | rfl | rfl | rfl <;> exact ⟨by decide, by decide, by decide, by decide, rfl⟩

/-- A text starts in the same mode with a margin and without it. -/
theorem startMode_margin (hw : ∀ c ∈ w, isTemplateMargin c = true) (t : List Char) :
    startMode (w ++ t) = startMode t := by
  unfold startMode isTemplate
  rw [List.dropWhile_append_of_pos hw]

/-- The pieces of the margin come first. -/
theorem ofSegments_segments_margin (hw : ∀ c ∈ w, isTemplateMargin c = true) (strategy : Strategy) (t : List Char) :
    ofSegments (strategy.segments (w ++ t)) = codes w ++ ofSegments (strategy.segments t) := by
  cases strategy with
  | php =>
    have hinert : ∀ c ∈ w, IsInert c := fun c hc => isInert_of_isTemplateMargin (hw c hc)
    have hlexed : Lexed (startMode t) (codes w ++ ofSegments (scan (startMode t) t)) :=
      (lexed_codes_iff hinert).mpr (lexed_scan (startMode t) t)
    have hscan := hlexed.scan_eq
    rw [joined_append, joined_codes, joined_ofSegments, joined_scan] at hscan
    rw [Strategy.segments, startMode_margin hw, hscan, ofSegments_merged, Strategy.segments]
  | raw =>
    rw [ofSegments_segments_raw, ofSegments_segments_raw]
    exact List.map_append

/-- The segments are those of the text with the margin in front. -/
theorem segments_margin (hw : ∀ c ∈ w, isTemplateMargin c = true) (strategy : Strategy) (t : List Char) :
    strategy.segments (w ++ t) = Segment.prependCode w (strategy.segments t) := by
  have hwhole := merged_ofSegments (Strategy.isMerged_segments strategy (w ++ t))
  have hrest := merged_ofSegments (Strategy.isMerged_segments strategy t)
  rw [← hwhole, ofSegments_segments_margin hw, merged_codes_append_eq, hrest]

/-! ## Normalizing a text with a margin -/

/-- Margins hold no mark characters. -/
theorem any_isDelimiter_margin (hw : ∀ c ∈ w, isTemplateMargin c = true) (t : List Char) :
    (w ++ t).any isDelimiter = t.any isDelimiter := by
  have hnone : w.any isDelimiter = false := by
    rw [List.any_eq_false]
    intro c hc hd
    have hm := (isTemplateMargin_iff c).mp (hw c hc)
    simp only [List.mem_cons, List.not_mem_nil, or_false] at hm
    rcases hm with rfl | rfl | rfl | rfl | rfl <;> revert hd <;> decide
  rw [List.any_append, hnone, Bool.false_or]

/-- **A margin is transparent.** Under every strategy a text with byte order marks, blanks and line breaks in front has
the segments of the text, with the margin in front of the first if that is code and in a new code segment otherwise. The
normalized text is that of the text with the margin in front, whatever the guard and the limit are. -/
theorem normalizeWith_margin (h : 1 ≤ limit) (strategy : Strategy) (guard : Bool)
    (hw : ∀ c ∈ w, c ∈ ['\uFEFF', ' ', '\t', '\r', '\n']) (t : List Char) :
    strategy.segments (w ++ t) = Segment.prependCode w (strategy.segments t) ∧
      (normalizeWith strategy guard limit (w ++ t)).text = w ++ (normalizeWith strategy guard limit t).text := by
  have hmargin : ∀ c ∈ w, isTemplateMargin c = true := fun c hc => (isTemplateMargin_iff c).mpr (hw c hc)
  constructor
  · exact segments_margin hmargin strategy t
  · have hopen : ∀ x ∈ codes w, x ≠ code '[' := by
      rintro x hx rfl
      obtain ⟨c, hc, he⟩ := List.mem_map.mp hx
      cases he
      exact absurd (hw '[' hc) (by decide)
    rw [text_normalizeWith_eq h, text_normalizeWith_eq h, any_isDelimiter_margin hmargin,
      ofSegments_segments_margin hmargin, Alphabet.padAll_append hopen, joined_append, joined_codes]

theorem normalizeWith_margin_mark : 1 ≤ 1 ∧ (∀ c ∈ ['\uFEFF', '\r', '\n'], c ∈ ['\uFEFF', ' ', '\t', '\r', '\n']) ∧
    Strategy.php.segments (['\uFEFF', '\r', '\n'] ++ "'\uE000'".toList) =
      [Segment.code ['\uFEFF', '\r', '\n'], Segment.literal "'\uE000'".toList] ∧
    (normalizeWith .php true 1 (['\uFEFF', '\r', '\n'] ++ "'\uE000'".toList)).text = "\uFEFF\r\n'\uE000'".toList := by
  have hw : ∀ c ∈ ['\uFEFF', '\r', '\n'], c ∈ ['\uFEFF', ' ', '\t', '\r', '\n'] := by simp
  have hsegments : Strategy.php.segments "'\uE000'".toList = [Segment.literal "'\uE000'".toList] := by cbv
  have htext : (normalizeWith .php true 1 "'\uE000'".toList).text = "'\uE000'".toList := by cbv
  obtain ⟨hfirst, hsecond⟩ := normalizeWith_margin (Nat.le_refl 1) .php true hw "'\uE000'".toList
  rw [hsegments] at hfirst
  rw [htext] at hsecond
  exact ⟨Nat.le_refl 1, hw, hfirst, hsecond⟩

end BracketSpacing
