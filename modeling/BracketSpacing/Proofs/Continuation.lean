import BracketSpacing.Proofs.Partition
import BracketSpacing.Proofs.Respacing

/-!
# Lines after a text

* What decides where a tag or a literal starts holds at most one line feed, and that at its end. So where a text ends in
  a line feed, what starts in it is decided whatever is written after it (`isPrefix_of_append`,
  `opensLiteral_append_iff`).
* `Continues p q`: the pieces of a text and of a longer one, which are the same up to a last literal that runs on.
* **Step by step** a text that ends in a line feed is lexed as the start of the longer text (`Lexed.exists_continues`).
* `segments_append_of_line`: hence all segments but the last stay as they are, and the last one keeps its kind and
  grows.
-/

namespace BracketSpacing

open Piece Text

variable {s t u v : List Char} {p q : List Piece} {mode : Mode}

/-! ## Prefixes of a text that ends in a line feed -/

/-- A prefix without a line feed before its end lies in the first text if that ends in a line feed. -/
theorem isPrefix_of_append {c : Char} (hs : s.getLast? = some '\n') (hv : '\n' ∉ v) (h : v ++ [c] <+: s ++ u) :
    v ++ [c] <+: s := by
  rcases isPrefix_or_of_append h with h | ⟨w, rfl, -⟩
  · exact h
  · have hmem : '\n' ∈ s := List.mem_of_getLast? hs
    exact absurd (List.mem_append_left w hmem) hv

theorem singleton_isPrefix_append_iff {c : Char} (hs : s.getLast? = some '\n') : [c] <+: s ++ u ↔ [c] <+: s := by
  constructor
  · intro h
    exact isPrefix_of_append (v := []) hs List.not_mem_nil h
  · intro h
    exact List.prefix_append_of_prefix h

theorem pair_isPrefix_append_iff {c d : Char} (hc : c ≠ '\n') (hs : s.getLast? = some '\n') :
    [c, d] <+: s ++ u ↔ [c, d] <+: s := by
  constructor
  · intro h
    refine isPrefix_of_append (v := [c]) hs ?_ h
    rw [List.mem_singleton]
    exact hc.symm
  · intro h
    exact List.prefix_append_of_prefix h

/-- The opener of a heredoc ends in its only line feed. -/
theorem heredoc_isPrefix_append_iff {opener label : List Char} (ho : IsOpener opener label)
    (hs : s.getLast? = some '\n') : ['<', '<', '<'] ++ opener <+: s ++ u ↔ ['<', '<', '<'] ++ opener <+: s := by
  constructor
  · intro h
    obtain ⟨v, rfl, hv⟩ := ho.exists_concat
    rw [← List.append_assoc] at h ⊢
    apply isPrefix_of_append hs _ h
    intro hmem
    rcases List.mem_append.mp hmem with hmem | hmem
    · exact absurd hmem (by decide)
    · exact (hv '\n' hmem).2.2 rfl
  · intro h
    exact List.prefix_append_of_prefix h

/-- Where a text ends in a line feed, a literal starts at its front or not, whatever follows. -/
theorem opensLiteral_append_iff (hs : s.getLast? = some '\n') : OpensLiteral (s ++ u) ↔ OpensLiteral s := by
  unfold OpensLiteral
  rw [pair_isPrefix_append_iff (by decide) hs, pair_isPrefix_append_iff (by decide) hs,
    pair_isPrefix_append_iff (by decide) hs]
  simp only [singleton_isPrefix_append_iff hs]
  apply or_congr_right
  apply or_congr_right
  apply or_congr_right
  apply or_congr_right
  constructor
  · rintro ⟨opener, label, ho, h⟩
    exact ⟨opener, label, ho, (heredoc_isPrefix_append_iff ho hs).mp h⟩
  · rintro ⟨opener, label, ho, h⟩
    exact ⟨opener, label, ho, (heredoc_isPrefix_append_iff ho hs).mpr h⟩

theorem startsLiteral_append_iff (hs : s.getLast? = some '\n') : StartsLiteral (s ++ u) ↔ StartsLiteral s := by
  rw [startsLiteral_iff, startsLiteral_iff, Option.ne_none_iff_exists', Option.ne_none_iff_exists',
    exists_literal?_iff, exists_literal?_iff]
  exact opensLiteral_append_iff hs

/-! ## Literals before the end and at the end -/

theorem stopsComment_append_iff (hs : s.getLast? = some '\n') : StopsComment (s ++ u) ↔ StopsComment s := by
  have hne : s ≠ [] := by
    rintro rfl
    cases hs
  unfold StopsComment
  rw [singleton_isPrefix_append_iff hs, singleton_isPrefix_append_iff hs, pair_isPrefix_append_iff (by decide) hs]
  simp [hne]

/-- A literal that is followed by a text with a line feed at its end may be followed by more. -/
theorem isLiteral_append_iff {kind : LiteralKind} {text : List Char} (hs : s.getLast? = some '\n') :
    IsLiteral kind text (s ++ u) ↔ IsLiteral kind text s := by
  have hne : s ≠ [] := by
    rintro rfl
    cases hs
  have hhead : (s ++ u).head? = s.head? := List.head?_append_of_ne_nil s hne
  constructor
  · intro h
    refine h.follow ?_ (stopsComment_append_iff hs).mp ?_
    · intro hnil
      exact (List.append_eq_nil_iff.mp hnil).1
    · rw [hhead]
      exact id
  · intro h
    refine h.follow ?_ (stopsComment_append_iff hs).mpr ?_
    · intro hnil
      exact absurd hnil hne
    · rw [hhead]
      exact id

/-- A literal at the end of a text runs on. -/
theorem exists_literal?_append {kind : LiteralKind} (hs : s.getLast? = some '\n') (h : IsLiteral kind s [])
    (u : List Char) : ∃ r, literal? (s ++ u) = some r ∧ s <+: r.literal := by
  have hread : literal? (s ++ []) = some ⟨s, []⟩ := literal?_append h
  rw [List.append_nil] at hread
  obtain ⟨r, hr⟩ := exists_literal?_iff.mpr ((opensLiteral_append_iff (u := u) hs).mpr
    (exists_literal?_iff.mp ⟨_, hread⟩))
  refine ⟨r, hr, ?_⟩
  have hwhole : r.literal ++ r.rest = s ++ u := literal?_whole hr
  rcases List.append_eq_append_iff.mp hwhole with ⟨d, hd, hrest⟩ | ⟨d, hd, -⟩
  · -- The literal ends within the text, so it is read there without the text after it too.
    obtain ⟨kind', hk⟩ := isLiteral_of_literal? hr
    cases d with
    | nil =>
      rw [List.append_nil] at hd
      exact hd ▸ List.prefix_rfl
    | cons c d =>
      have hlast : (c :: d).getLast? = some '\n' := by
        rw [hd, List.getLast?_append_of_ne_nil _ (List.cons_ne_nil c d)] at hs
        exact hs
      rw [hrest, isLiteral_append_iff hlast] at hk
      have hread' := literal?_append hk
      rw [← hd, hread] at hread'
      cases hread'
  · exact ⟨d, hd.symm⟩

/-! ## Pieces of a longer text -/

/-- The pieces of a text and of a longer one: the same, unless the last one of the text is a literal that runs on. -/
inductive Continues : List Piece → List Piece → Prop
  | nil (q : List Piece) : Continues [] q
  | cons {p q : List Piece} (x : Piece) : Continues p q → Continues (x :: p) (x :: q)
  | last {s t : List Char} (q : List Piece) : s <+: t → Continues [.literal s] (.literal t :: q)

/-- No text is empty but that without pieces. -/
theorem Lexed.joined_ne_nil (h : Lexed mode p) (hp : p ≠ []) : joined p ≠ [] := by
  cases h with
  | nil => exact absurd rfl hp
  | opens _ => exact List.cons_ne_nil _ _
  | markup _ _ => exact List.cons_ne_nil _ _
  | closes _ => exact List.cons_ne_nil _ _
  | literal hk _ =>
    obtain ⟨kind, hk, -⟩ := hk
    rw [joined_literal]
    exact List.append_ne_nil_of_left_ne_nil (literal?_literal_ne_nil (literal?_append hk)) _
  | script _ _ _ => exact List.cons_ne_nil _ _

/-- Whole lines: nothing, or a text that ends in a line feed. -/
def IsLines (s : List Char) : Prop :=
  ∀ c ∈ s.getLast?, c = '\n'

theorem IsLines.getLast? (h : IsLines s) (hs : s ≠ []) : s.getLast? = some '\n' := by
  rw [List.getLast?_eq_some_getLast hs]
  exact congrArg some (h _ (List.getLast?_eq_some_getLast hs))

/-- What is left of whole lines ends as they do. -/
theorem IsLines.of_append (h : IsLines (s ++ t)) : IsLines t := by
  intro c hc
  apply h c
  rw [List.getLast?_append, Option.mem_def.mp hc]
  rfl

/-- **Step by step.** Whole lines are lexed as they are in a longer text, but for a literal at their end. -/
theorem Lexed.exists_continues (h : Lexed mode p) (hlines : IsLines (joined p)) (u : List Char) :
    ∃ q, Lexed mode q ∧ joined q = joined p ++ u ∧ Continues p q := by
  induction h with
  | @nil mode =>
    refine ⟨ofSegments (scan mode u), lexed_scan mode u, ?_, .nil _⟩
    rw [joined_ofSegments, joined_scan]
    rfl
  | @opens p _ ih =>
    obtain ⟨q, hq, hjoined, hcont⟩ := ih (IsLines.of_append (s := ['<', '?']) hlines)
    refine ⟨code '<' :: code '?' :: q, .opens hq, ?_, .cons _ (.cons _ hcont)⟩
    rw [joined_code, joined_code, hjoined]
    rfl
  | @markup c p hc _ ih =>
    obtain ⟨q, hq, hjoined, hcont⟩ := ih (IsLines.of_append (s := [c]) hlines)
    have hline : (c :: joined p).getLast? = some '\n' := hlines.getLast? (List.cons_ne_nil _ _)
    refine ⟨code c :: q, .markup ?_ hq, ?_, .cons _ hcont⟩
    · rw [hjoined, ← List.cons_append, pair_isPrefix_append_iff (by decide) hline]
      exact hc
    · rw [joined_code, hjoined]
      rfl
  | @closes p _ ih =>
    obtain ⟨q, hq, hjoined, hcont⟩ := ih (IsLines.of_append (s := ['?', '>']) hlines)
    refine ⟨code '?' :: code '>' :: q, .closes hq, ?_, .cons _ (.cons _ hcont)⟩
    rw [joined_code, joined_code, hjoined]
    rfl
  | @literal s p hk hp ih =>
    obtain ⟨kind, hk, -⟩ := hk
    by_cases hnil : p = []
    · -- The literal ends the text, so it is read anew.
      subst hnil
      rw [joined_literal, joined_nil, List.append_nil] at hlines ⊢
      have hs : s ≠ [] := literal?_literal_ne_nil (literal?_append hk)
      obtain ⟨r, hr, hprefix⟩ := exists_literal?_append (hlines.getLast? hs) hk u
      have hlexed : Lexed .script (ofSegments (scan .script (s ++ u))) := lexed_scan .script (s ++ u)
      rw [scan_literal hr, ofSegments] at hlexed
      refine ⟨Piece.literal r.literal :: ofSegments (scan .script r.rest), hlexed, ?_, .last _ hprefix⟩
      rw [joined_literal, joined_ofSegments, joined_scan]
      exact literal?_whole hr
    · have hrest : IsLines (joined p) := IsLines.of_append hlines
      obtain ⟨q, hq, hjoined, hcont⟩ := ih hrest
      have hliteral : IsLiteral kind s (joined q) := by
        rw [hjoined, isLiteral_append_iff (hrest.getLast? (hp.joined_ne_nil hnil))]
        exact hk
      refine ⟨Piece.literal s :: q, .literal ⟨kind, hliteral, ?_⟩ hq, ?_, .cons _ hcont⟩
      · intro kind' hk'
        exact hk'.kind_eq.trans hliteral.kind_eq.symm
      · rw [joined_literal, joined_literal, hjoined, List.append_assoc]
  | @script c p hc hl _ ih =>
    obtain ⟨q, hq, hjoined, hcont⟩ := ih (IsLines.of_append (s := [c]) hlines)
    have hline : (c :: joined p).getLast? = some '\n' := hlines.getLast? (List.cons_ne_nil _ _)
    refine ⟨code c :: q, .script ?_ ?_ hq, ?_, .cons _ hcont⟩
    · rw [hjoined, ← List.cons_append, pair_isPrefix_append_iff (by decide) hline]
      exact hc
    · rw [hjoined, ← List.cons_append, startsLiteral_append_iff hline]
      exact hl
    · rw [joined_code, hjoined]
      rfl

/-! ## Segments of a longer text -/

/-- The segments of a text and of a longer one: the same before the last, which is followed by one of its kind that
starts with its text. -/
def GrowsAtEnd (a b : List Segment) : Prop :=
  ∃ front x y back, a = front ++ [x] ∧ b = front ++ y :: back ∧ y.kind = x.kind ∧ x.text <+: y.text

theorem GrowsAtEnd.consCode {a b : List Segment} (c : Char) (h : GrowsAtEnd a b) :
    GrowsAtEnd (Segment.consCode c a) (Segment.consCode c b) := by
  obtain ⟨front, x, y, back, rfl, rfl, hkind, htext⟩ := h
  cases front with
  | nil =>
    obtain ⟨kx, x⟩ := x
    obtain ⟨ky, y⟩ := y
    obtain rfl : ky = kx := hkind
    cases ky with
    | code => exact ⟨[], Segment.code (c :: x), Segment.code (c :: y), back, rfl, rfl, rfl,
        List.cons_prefix_cons.mpr ⟨rfl, htext⟩⟩
    | literal => exact ⟨[Segment.code [c]], Segment.literal x, Segment.literal y, back, rfl, rfl, rfl, htext⟩
  | cons z front =>
    obtain ⟨kz, z⟩ := z
    cases kz with
    | code => exact ⟨Segment.code (c :: z) :: front, x, y, back, rfl, rfl, hkind, htext⟩
    | literal => exact ⟨Segment.code [c] :: Segment.literal z :: front, x, y, back, rfl, rfl, hkind, htext⟩

theorem growsAtEnd_consCode_nil (c : Char) (b : List Segment) :
    GrowsAtEnd (Segment.consCode c []) (Segment.consCode c b) := by
  rcases b with _ | ⟨⟨_ | _, y⟩, b⟩
  · exact ⟨[], Segment.code [c], Segment.code [c], [], rfl, rfl, rfl, List.prefix_rfl⟩
  · exact ⟨[], Segment.code [c], Segment.code (c :: y), b, rfl, rfl, rfl, List.prefix_append [c] y⟩
  · exact ⟨[], Segment.code [c], Segment.code [c], _, rfl, rfl, rfl, List.prefix_rfl⟩

/-- Merging pieces that continue others gives segments that grow at the end. -/
theorem Continues.growsAtEnd (h : Continues p q) (hp : p ≠ []) : GrowsAtEnd (merged p) (merged q) := by
  induction h with
  | nil _ => exact absurd rfl hp
  | @cons p q x h ih =>
    cases x with
    | code c =>
      rw [merged, merged]
      cases p with
      | nil => exact growsAtEnd_consCode_nil c (merged q)
      | cons y p => exact (ih (List.cons_ne_nil y p)).consCode c
    | literal s =>
      rw [merged, merged]
      cases p with
      | nil => exact ⟨[], Segment.literal s, Segment.literal s, merged q, rfl, rfl, rfl, List.prefix_rfl⟩
      | cons y p =>
        obtain ⟨front, x, y', back, hfront, hback, hkind, htext⟩ := ih (List.cons_ne_nil y p)
        exact ⟨Segment.literal s :: front, x, y', back, congrArg _ hfront, congrArg _ hback, hkind, htext⟩
  | @last s t q hprefix => exact ⟨[], Segment.literal s, Segment.literal t, merged q, rfl, rfl, rfl, hprefix⟩

/-- **Lines that are added change nothing before.** If a text ends in a line feed and starts in the same mode with other
text after it, then all its segments but the last are the first segments of the whole, as they are. The last one is of
the same kind there and may only get longer. -/
theorem segments_append_of_line (hline : t.getLast? = some '\n') (hmode : isTemplate t = isTemplate (t ++ u)) :
    (Strategy.php.segments t).dropLast <+: Strategy.php.segments (t ++ u) ∧
      GrowsAtEnd (Strategy.php.segments t) (Strategy.php.segments (t ++ u)) := by
  have hmodes : startMode (t ++ u) = startMode t := by
    unfold startMode
    rw [hmode]
  have hjoined : joined (ofSegments (scan (startMode t) t)) = t := by rw [joined_ofSegments, joined_scan]
  have hlines : IsLines (joined (ofSegments (scan (startMode t) t))) := by
    intro c hc
    rw [hjoined, hline] at hc
    exact (Option.some.inj hc).symm
  have hne : ofSegments (scan (startMode t) t) ≠ [] := by
    intro hnil
    rw [hnil, joined_nil] at hjoined
    rw [← hjoined] at hline
    cases hline
  obtain ⟨q, hq, hwhole, hcont⟩ := (lexed_scan (startMode t) t).exists_continues hlines u
  have hgrows := hcont.growsAtEnd hne
  rw [merged_ofSegments (isMerged_scan _ t), ← hq.scan_eq, hwhole, hjoined] at hgrows
  have hsegments : GrowsAtEnd (Strategy.php.segments t) (Strategy.php.segments (t ++ u)) := by
    rw [Strategy.segments, Strategy.segments, hmodes]
    exact hgrows
  refine ⟨?_, hsegments⟩
  obtain ⟨front, x, y, back, hfront, hback, -, -⟩ := hsegments
  rw [hfront, hback, List.dropLast_concat]
  exact List.prefix_append front (y :: back)

theorem segments_append_of_line_comment : "$a='b' /*[c\n".toList.getLast? = some '\n' ∧
    isTemplate "$a='b' /*[c\n".toList = isTemplate ("$a='b' /*[c\n".toList ++ "*/ [d]".toList) ∧
    Strategy.php.segments "$a='b' /*[c\n".toList = [Segment.code "$a=".toList, Segment.literal "'b'".toList,
      Segment.code " ".toList, Segment.literal "/*[c\n".toList] ∧
    [Segment.code "$a=".toList, Segment.literal "'b'".toList, Segment.code " ".toList] <+:
      Strategy.php.segments "$a='b' /*[c\n*/ [d]".toList := by
  have hline : "$a='b' /*[c\n".toList.getLast? = some '\n' := by rfl
  have hmode : isTemplate "$a='b' /*[c\n".toList = isTemplate ("$a='b' /*[c\n".toList ++ "*/ [d]".toList) := by rfl
  have hsegments : Strategy.php.segments "$a='b' /*[c\n".toList = [Segment.code "$a=".toList,
      Segment.literal "'b'".toList, Segment.code " ".toList, Segment.literal "/*[c\n".toList] := by cbv
  have hprefix := (segments_append_of_line hline hmode).1
  rw [hsegments] at hprefix
  exact ⟨hline, hmode, hsegments, hprefix⟩

end BracketSpacing
