import BracketSpacing.Proofs.Literal
import BracketSpacing.Proofs.Piece
import BracketSpacing.Segment.Scan

/-!
# The grammar of texts

* `Lexed mode pieces`: a text in pieces that is lexed from a mode on. Markup goes to the next `<?`, script to a `?>` in
  code, and in script a literal stands wherever one starts.
* A lexed text is scanned into its pieces (`Lexed.scan_eq`), and what is scanned is lexed (`lexed_scan`).
* `StartsInMarkup`: the texts that start in markup mode (`startMode_of_startsInMarkup`).
* The segments of a text are the merged segments that the grammar derives (`segments_php_eq_iff`).
-/

namespace BracketSpacing

open Piece

/-- A literal starts here. -/
def StartsLiteral (s : List Char) : Prop :=
  ∃ kind text rest, s = text ++ rest ∧ IsLiteral kind text rest

/-- The pieces of a text that starts in the given mode. -/
inductive Lexed : Mode → List Piece → Prop
  | nil {mode : Mode} : Lexed mode []
  /-- An open tag ends markup. -/
  | opens {p : List Piece} : Lexed .script p → Lexed .markup (code '<' :: code '?' :: p)
  | markup {c : Char} {p : List Piece} : ¬['<', '?'] <+: c :: joined p → Lexed .markup p → Lexed .markup (code c :: p)
  /-- A closing tag ends script. -/
  | closes {p : List Piece} : Lexed .markup p → Lexed .script (code '?' :: code '>' :: p)
  | literal {s : List Char} {p : List Piece} : (∃! kind, IsLiteral kind s (joined p)) → Lexed .script p →
      Lexed .script (literal s :: p)
  | script {c : Char} {p : List Piece} : ¬['?', '>'] <+: c :: joined p → ¬StartsLiteral (c :: joined p) →
      Lexed .script p → Lexed .script (code c :: p)

/-! ## Scanning step by step -/

theorem startsLiteral_iff (s : List Char) : StartsLiteral s ↔ literal? s ≠ none := by
  constructor
  · rintro ⟨kind, text, rest, rfl, h⟩
    simp [literal?_append h]
  · intro h
    obtain ⟨r, hr⟩ := Option.ne_none_iff_exists'.mp h
    obtain ⟨kind, hk⟩ := isLiteral_of_literal? hr
    exact ⟨kind, r.literal, r.rest, (literal?_whole hr).symm, hk⟩

/-- In the last case of a match the text does not start with the two characters that were matched before. -/
theorem not_isPrefix_pair {a b c : Char} {s : List Char} (h : ∀ t, c = a → s = b :: t → False) :
    ¬[a, b] <+: c :: s := by
  rintro ⟨t, ht⟩
  obtain ⟨rfl, rfl⟩ := List.cons.inj ht
  exact h t rfl rfl

theorem scan_nil (mode : Mode) : scan mode [] = [] := by
  cases mode <;> rw [scan]

theorem scan_opens (s : List Char) :
    scan .markup ('<' :: '?' :: s) = Segment.consCode '<' (Segment.consCode '?' (scan .script s)) := by
  rw [scan]

theorem scan_closes (s : List Char) :
    scan .script ('?' :: '>' :: s) = Segment.consCode '?' (Segment.consCode '>' (scan .markup s)) := by
  rw [scan]

theorem scan_markup {c : Char} {s : List Char} (h : ¬['<', '?'] <+: c :: s) :
    scan .markup (c :: s) = Segment.consCode c (scan .markup s) := by
  rw [scan]
  rintro t rfl rfl
  exact h (by simp)

theorem scan_literal {s : List Char} {r : Reading} (h : literal? s = some r) :
    scan .script s = Segment.literal r.literal :: scan .script r.rest := by
  cases s with
  | nil => cases h
  | cons c s =>
    have hno : ∀ t, c = '?' → s = '>' :: t → False := by
      rintro t rfl rfl
      cases h
    rw [scan]
    · split
      · rename_i r' hr
        rw [h] at hr
        cases hr
        rfl
      · rename_i hr
        rw [h] at hr
        cases hr
    · exact hno

theorem scan_script {c : Char} {s : List Char} (h : ¬['?', '>'] <+: c :: s) (hl : literal? (c :: s) = none) :
    scan .script (c :: s) = Segment.consCode c (scan .script s) := by
  rw [scan]
  · split
    · rename_i hr
      rw [hl] at hr
      cases hr
    · rfl
  · rintro t rfl rfl
    exact h (by simp)

/-! ## Scanning and lexing -/

/-- A lexed text is scanned into its pieces. -/
theorem Lexed.scan_eq {mode : Mode} {p : List Piece} (h : Lexed mode p) : scan mode (joined p) = merged p := by
  induction h with
  | nil => exact scan_nil _
  | opens _ ih => rw [joined_code, joined_code, scan_opens, ih, merged, merged]
  | markup hc _ ih => rw [joined_code, scan_markup hc, ih, merged]
  | closes _ ih => rw [joined_code, joined_code, scan_closes, ih, merged, merged]
  | literal hl _ ih =>
    obtain ⟨kind, hk, -⟩ := hl
    rw [joined_literal, scan_literal (literal?_append hk), ih, merged]
  | script hc hl _ ih =>
    rw [startsLiteral_iff, not_not] at hl
    rw [joined_code, scan_script hc hl, ih, merged]

/-- What is scanned is lexed. -/
theorem lexed_scan (mode : Mode) (s : List Char) : Lexed mode (ofSegments (scan mode s)) := by
  fun_induction scan mode s with
  | case1 => exact .nil
  | case2 s ih =>
    rw [ofSegments_consCode, ofSegments_consCode]
    exact .opens ih
  | case3 c s hc ih =>
    rw [ofSegments_consCode]
    refine .markup ?_ ih
    rw [joined_ofSegments, joined_scan]
    exact not_isPrefix_pair hc
  | case4 s ih =>
    rw [ofSegments_consCode, ofSegments_consCode]
    exact .closes ih
  | case5 c s _ r h ih =>
    refine .literal ?_ ih
    rw [joined_ofSegments, joined_scan]
    exact (literal?_eq_some_iff.mp h).2
  | case6 c s hc h ih =>
    rw [ofSegments_consCode]
    refine .script ?_ ?_ ih
    · rw [joined_ofSegments, joined_scan]
      exact not_isPrefix_pair hc
    · rw [joined_ofSegments, joined_scan, startsLiteral_iff, not_not]
      exact h

/-- Scanning gives merged segments. -/
theorem isMerged_scan (mode : Mode) (s : List Char) : IsMerged (scan mode s) := by
  have h := (lexed_scan mode s).scan_eq
  rw [joined_ofSegments, joined_scan] at h
  rw [h]
  exact isMerged_merged _

theorem isMerged_segments_php (s : List Char) : IsMerged (Strategy.php.segments s) :=
  isMerged_scan _ _

/-! ## Where a text starts -/

/-- The text starts, after a margin of byte order marks, blanks and line breaks, with an open tag, or with other markup
that an open tag follows somewhere. -/
def StartsInMarkup (s : List Char) : Prop :=
  ∃ margin head, s = margin ++ head ∧ (∀ c ∈ margin, c ∈ ['\uFEFF', ' ', '\t', '\r', '\n']) ∧
    (∀ c ∈ head.head?, c ∉ ['\uFEFF', ' ', '\t', '\r', '\n']) ∧
    (['<', '?'] <+: head ∨ ['<'] <+: head ∧ ¬['<', '<', '<'] <+: head ∧ ['<', '?'] <:+: head)

theorem isTemplateMargin_iff (c : Char) : isTemplateMargin c = true ↔ c ∈ ['\uFEFF', ' ', '\t', '\r', '\n'] := by
  simp [isTemplateMargin, or_assoc]

theorem hasOpenTag_iff (s : List Char) : hasOpenTag s = true ↔ ['<', '?'] <:+: s := by
  fun_induction hasOpenTag s with
  | case1 => simp
  | case2 s => simpa using (List.prefix_append ['<', '?'] s).isInfix
  | case3 c s hc ih =>
    rw [ih, List.infix_cons_iff, or_iff_right]
    exact not_isPrefix_pair hc

/-- The test for templates, in terms of what stands at the front and somewhere in the text after its margin. -/
theorem isTemplate_iff (s : List Char) : isTemplate s = true ↔
    ['<', '?'] <+: s.dropWhile isTemplateMargin ∨ ['<'] <+: s.dropWhile isTemplateMargin ∧
      ¬['<', '<', '<'] <+: s.dropWhile isTemplateMargin ∧ ['<', '?'] <:+: s.dropWhile isTemplateMargin := by
  unfold isTemplate
  generalize s.dropWhile isTemplateMargin = head
  split
  · simp
  · simp
  · rename_i t h1 h2
    have h3 : ¬['<', '?'] <+: '<' :: t := by
      rintro ⟨u, hu⟩
      exact h1 u (List.cons.inj hu).2.symm
    have h4 : ¬['<', '<', '<'] <+: '<' :: t := by
      rintro ⟨u, hu⟩
      exact h2 u (List.cons.inj hu).2.symm
    rw [hasOpenTag_iff, List.infix_cons_iff]
    simp [h3, h4]
  · rename_i h1 h2 h3
    constructor
    · intro h
      cases h
    · rintro (⟨u, hu⟩ | ⟨⟨u, hu⟩, -⟩)
      · exact absurd hu.symm (h1 u)
      · exact absurd hu.symm (h3 u)

theorem startsInMarkup_iff (s : List Char) : StartsInMarkup s ↔ isTemplate s = true := by
  rw [isTemplate_iff]
  constructor
  · rintro ⟨margin, head, rfl, hm, hh, h⟩
    have hd : (margin ++ head).dropWhile isTemplateMargin = head := by
      rw [List.dropWhile_append_of_pos (fun c hc => (isTemplateMargin_iff c).mpr (hm c hc))]
      refine Text.dropWhile_eq_self_of_head? fun c hc => ?_
      rw [Bool.eq_false_iff, ne_eq, isTemplateMargin_iff]
      exact hh c hc
    rwa [hd]
  · intro h
    refine ⟨s.takeWhile isTemplateMargin, _, List.takeWhile_append_dropWhile.symm,
      fun c hc => (isTemplateMargin_iff c).mp (List.mem_takeWhile_imp hc), fun c hc => ?_, h⟩
    rw [← isTemplateMargin_iff, Text.head?_dropWhile_eq_false c hc]
    simp

theorem startMode_of_startsInMarkup {s : List Char} (h : StartsInMarkup s) : startMode s = .markup :=
  if_pos ((startsInMarkup_iff s).mp h)

theorem startMode_of_not_startsInMarkup {s : List Char} (h : ¬StartsInMarkup s) : startMode s = .script := by
  rw [startsInMarkup_iff] at h
  exact if_neg h

/-! ## The segments of a text -/

/-- The segments of a text are the merged segments that the grammar derives from the mode the text starts in. -/
theorem segments_php_eq_iff (s : List Char) (segments : List Segment) :
    Strategy.php.segments s = segments ↔
      Segment.joined segments = s ∧ IsMerged segments ∧
        (StartsInMarkup s ∧ Lexed .markup (ofSegments segments) ∨
          ¬StartsInMarkup s ∧ Lexed .script (ofSegments segments)) := by
  constructor
  · rintro rfl
    refine ⟨joined_scan _ _, isMerged_segments_php s, ?_⟩
    by_cases h : StartsInMarkup s
    · refine Or.inl ⟨h, ?_⟩
      rw [Strategy.segments, startMode_of_startsInMarkup h]
      exact lexed_scan .markup s
    · refine Or.inr ⟨h, ?_⟩
      rw [Strategy.segments, startMode_of_not_startsInMarkup h]
      exact lexed_scan .script s
  · rintro ⟨hj, hm, hl⟩
    have hs : joined (ofSegments segments) = s := by rw [joined_ofSegments, hj]
    rw [Strategy.segments, ← hs]
    rcases hl with ⟨h, hl⟩ | ⟨h, hl⟩
    · rw [← hs] at h
      rw [startMode_of_startsInMarkup h, hl.scan_eq, merged_ofSegments hm]
    · rw [← hs] at h
      rw [startMode_of_not_startsInMarkup h, hl.scan_eq, merged_ofSegments hm]

end BracketSpacing
