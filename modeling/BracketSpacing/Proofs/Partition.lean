import Mathlib.Data.List.Chain
import BracketSpacing.Proofs.Grammar

/-!
# Segments are a partition of their text

* `OpensLiteral`: what a literal starts with. A reader that is started there gives a literal, and nowhere else
  (`exists_literal?_iff`).
* Each literal among the segments of a text is what a reader gives at its place (`literal?_of_segments_eq`).
* `segments_partition`: the segments make up the text, none is empty, and no two code segments are neighbours. Wherever
  a reader is started at an opener, it gets further and stays in the text.
-/

namespace BracketSpacing

open Piece

variable {mode : Mode} {segments front back : List Segment} {s : List Char} {x : Segment}

/-! ## Where readers are started -/

/-- A quote, the two characters that open a comment, a hash without a bracket after it, or the opener of a heredoc. -/
def OpensLiteral (s : List Char) : Prop :=
  (∃ quote ∈ ['\'', '"', '\x60'], [quote] <+: s) ∨ ['/', '/'] <+: s ∨ ['/', '*'] <+: s ∨
    (['#'] <+: s ∧ ¬['#', '['] <+: s) ∨ ∃ opener label, IsOpener opener label ∧ ['<', '<', '<'] ++ opener <+: s

theorem IsLiteral.opensLiteral {kind : LiteralKind} {text rest : List Char} (h : IsLiteral kind text rest) :
    OpensLiteral (text ++ rest) := by
  cases h with
  | @quoted quote body _ hq _ =>
    refine Or.inl ⟨quote, ?_, body ++ rest, by simp⟩
    rcases hq with rfl | rfl | rfl <;> simp
  | @lineComment opener body _ ho _ =>
    rcases ho with rfl | ⟨rfl, hno⟩
    · exact Or.inr (Or.inl ⟨body ++ rest, by simp⟩)
    · refine Or.inr (Or.inr (Or.inr (Or.inl ⟨⟨body ++ rest, by simp⟩, fun hb => hno ?_⟩)))
      exact (List.cons_prefix_cons.mp hb).2
  | @blockComment body _ _ => exact Or.inr (Or.inr (Or.inl ⟨body ++ rest, by simp⟩))
  | @heredoc opener label body _ ho _ =>
    exact Or.inr (Or.inr (Or.inr (Or.inr ⟨opener, label, ho, body ++ rest, by simp⟩)))

/-- A reader gives a literal exactly at an opener. -/
theorem exists_literal?_iff : (∃ r, literal? s = some r) ↔ OpensLiteral s := by
  constructor
  · rintro ⟨r, hr⟩
    obtain ⟨kind, hk⟩ := isLiteral_of_literal? hr
    have hs : r.literal ++ r.rest = s := literal?_whole hr
    rw [← hs]
    exact hk.opensLiteral
  · rintro (⟨quote, hq, t, rfl⟩ | ⟨t, rfl⟩ | ⟨t, rfl⟩ | ⟨⟨t, rfl⟩, hno⟩ | ⟨opener, label, ho, t, rfl⟩)
    · simp only [List.mem_cons, List.not_mem_nil, or_false] at hq
      rcases hq with rfl | rfl | rfl
      · exact ⟨_, rfl⟩
      · exact ⟨_, rfl⟩
      · exact ⟨_, rfl⟩
    · exact ⟨_, rfl⟩
    · exact ⟨_, rfl⟩
    · have hhead : t.head? ≠ some '[' := by
        rw [ne_eq, head?_eq_bracket_iff]
        exact fun hb => hno (List.cons_prefix_cons.mpr ⟨rfl, hb⟩)
      exact ⟨_, by rw [List.singleton_append, literal?, if_neg hhead]⟩
    · exact ⟨_, by
        rw [List.append_assoc, List.cons_append, List.cons_append, List.cons_append, List.nil_append, literal?,
          opener?_append ho]
        rfl⟩

/-- A reader takes at least one character and at most all. -/
theorem literal?_bounds {r : Reading} (h : literal? s = some r) :
    0 < r.literal.length ∧ r.literal.length ≤ s.length := by
  have hwhole : r.literal ++ r.rest = s := literal?_whole h
  refine ⟨List.length_pos_iff.mpr (literal?_literal_ne_nil h), ?_⟩
  rw [← hwhole, List.length_append]
  exact Nat.le_add_right _ _

/-! ## Literals among segments -/

/-- A character of code in front does not move the literals. -/
theorem exists_of_consCode_eq {c : Char} (h : Segment.consCode c segments = front ++ x :: back)
    (hx : x.kind = .literal) : ∃ front, segments = front ++ x :: back := by
  rcases segments with _ | ⟨⟨_ | _, t⟩, segments⟩ <;> rcases front with _ | ⟨y, front⟩
  · cases h
    cases hx
  · exact ⟨front, (List.cons.inj h).2⟩
  · cases h
    cases hx
  · exact ⟨Segment.code t :: front, congrArg (Segment.code t :: ·) (List.cons.inj h).2⟩
  · cases h
    cases hx
  · exact ⟨front, (List.cons.inj h).2⟩

theorem literal?_of_scan_eq (h : scan mode s = front ++ x :: back) (hx : x.kind = .literal) :
    literal? (x.text ++ Segment.joined back) = some ⟨x.text, Segment.joined back⟩ := by
  fun_induction scan mode s generalizing front with
  | case1 => simp at h
  | case2 s ih =>
    obtain ⟨front, h⟩ := exists_of_consCode_eq h hx
    obtain ⟨front, h⟩ := exists_of_consCode_eq h hx
    exact ih h
  | case3 c s _ ih =>
    obtain ⟨front, h⟩ := exists_of_consCode_eq h hx
    exact ih h
  | case4 s ih =>
    obtain ⟨front, h⟩ := exists_of_consCode_eq h hx
    obtain ⟨front, h⟩ := exists_of_consCode_eq h hx
    exact ih h
  | case5 c s _ r hr ih =>
    cases front with
    | nil =>
      -- The literal has been read here, and what follows it is cut into the segments behind it.
      obtain ⟨rfl, rfl⟩ := List.cons.inj h
      rw [joined_scan]
      exact (congrArg literal? (literal?_whole hr)).trans hr
    | cons y front => exact ih (List.cons.inj h).2
  | case6 c s _ _ ih =>
    obtain ⟨front, h⟩ := exists_of_consCode_eq h hx
    exact ih h

namespace Strategy

variable {strategy : Strategy}

/-- Every literal among the segments is read where it stands. -/
theorem literal?_of_segments_eq (h : strategy.segments s = front ++ x :: back) (hx : x.kind = .literal) :
    literal? (x.text ++ Segment.joined back) = some ⟨x.text, Segment.joined back⟩ := by
  cases strategy with
  | php => exact literal?_of_scan_eq h hx
  | raw =>
    have hmem : x ∈ raw.segments s := h ▸ List.mem_append_right front List.mem_cons_self
    cases s with
    | nil => cases hmem
    | cons c s =>
      rw [List.mem_singleton.mp hmem] at hx
      cases hx

theorem isMerged_segments (strategy : Strategy) (s : List Char) : IsMerged (strategy.segments s) := by
  cases strategy with
  | php => exact isMerged_segments_php s
  | raw =>
    cases s with
    | nil => trivial
    | cons c s => exact ⟨by simp, by simp, trivial⟩

end Strategy

/-! ## Merged segments -/

theorem Piece.IsMerged.text_ne_nil : ∀ {segments : List Segment}, IsMerged segments →
    ∀ x ∈ segments, x.kind = .code → x.text ≠ []
  | ⟨.code, _⟩ :: _, ⟨hs, _, h⟩, x, hmem, hx => by
    rcases List.mem_cons.mp hmem with rfl | hmem
    · exact hs
    · exact h.text_ne_nil x hmem hx
  | ⟨.literal, _⟩ :: segments, h, x, hmem, hx => by
    have hrest : IsMerged segments := h
    rcases List.mem_cons.mp hmem with rfl | hmem
    · cases hx
    · exact hrest.text_ne_nil x hmem hx

/-- Of two neighbours one is a literal. -/
theorem Piece.IsMerged.isChain : ∀ {segments : List Segment}, IsMerged segments →
    segments.IsChain fun x y => ¬(x.kind = .code ∧ y.kind = .code)
  | [], _ => .nil
  | ⟨.code, _⟩ :: _, ⟨_, hhead, h⟩ => by
    refine List.isChain_cons.mpr ⟨fun y hy hcode => ?_, h.isChain⟩
    rw [hhead y hy] at hcode
    cases hcode.2
  | ⟨.literal, _⟩ :: segments, h => by
    have hrest : IsMerged segments := h
    refine List.isChain_cons.mpr ⟨fun y _ hcode => ?_, hrest.isChain⟩
    cases hcode.1

/-- **Segments are a partition.** The segments of a text make it up, none is empty, and of two neighbours one is a
literal. A reader that is started at an opener anywhere in the text ends behind its start and within the text, and every
literal among the segments is what a reader gives at its place. -/
theorem segments_partition (strategy : Strategy) (s : List Char) :
    Segment.joined (strategy.segments s) = s ∧
    (∀ x ∈ strategy.segments s, x.text ≠ []) ∧
    ((strategy.segments s).IsChain fun x y => ¬(x.kind = .code ∧ y.kind = .code)) ∧
    (∀ before after, s = before ++ after → OpensLiteral after → ∃ r, literal? after = some r ∧ r.whole = after ∧
      before.length < before.length + r.literal.length ∧ before.length + r.literal.length ≤ s.length) ∧
    ∀ front x back, strategy.segments s = front ++ x :: back → x.kind = .literal →
      literal? (x.text ++ Segment.joined back) = some ⟨x.text, Segment.joined back⟩ := by
  have hliteral : ∀ front x back, strategy.segments s = front ++ x :: back → x.kind = .literal →
      literal? (x.text ++ Segment.joined back) = some ⟨x.text, Segment.joined back⟩ :=
    fun _ _ _ h hx => Strategy.literal?_of_segments_eq h hx
  have hmerged := Strategy.isMerged_segments strategy s
  refine ⟨Strategy.joined_segments strategy s, fun x hmem => ?_, hmerged.isChain, ?_, hliteral⟩
  · cases hx : x.kind with
    | code => exact hmerged.text_ne_nil x hmem hx
    | literal =>
      obtain ⟨front, back, h⟩ := List.append_of_mem hmem
      exact literal?_literal_ne_nil (hliteral front x back h hx)
  · rintro before after rfl hopens
    obtain ⟨r, hr⟩ := exists_literal?_iff.mpr hopens
    obtain ⟨hpos, hle⟩ := literal?_bounds hr
    refine ⟨r, hr, literal?_whole hr, Nat.lt_add_of_pos_right hpos, ?_⟩
    rw [List.length_append]
    exact Nat.add_le_add_left hle before.length

theorem segments_partition_unclosed :
    "[#['\\".toList = "[#[".toList ++ "'\\".toList ∧ OpensLiteral "'\\".toList ∧
    Segment.joined (Strategy.php.segments "[#['\\".toList) = "[#['\\".toList ∧
    ∃ r, literal? "'\\".toList = some r ∧ r.whole = "'\\".toList ∧ 3 < 3 + r.literal.length ∧
      3 + r.literal.length ≤ 5 := by
  have hopens : OpensLiteral "'\\".toList := Or.inl ⟨'\'', List.mem_cons_self, ['\\'], rfl⟩
  obtain ⟨hjoined, -, -, hreaders, -⟩ := segments_partition .php "[#['\\".toList
  exact ⟨rfl, hopens, hjoined, hreaders "[#[".toList _ rfl hopens⟩

end BracketSpacing
