import BracketSpacing.Proofs.Normalization

/-!
# Marks outlive every pass

* `Placeholder.found`: the marks in a text from left to right, each with the characters that it is read from.
* `Placeholder.restore?`: literals put back where there may be too few of them. It does not fail if there is a literal
  for every mark that is found (`restore?_eq_some`).
* The marks found in masked pieces are those of the literals, one for each in order (`Piece.found_masked`). A sweep over
  a masked text is the masked sweep over its pieces, and so are several (`Piece.iterate_padAll_masked`).
* `found_iterate_padAll`: hence passes over masked segments neither lose a mark nor make one, and no literal is missing
  when literals are put back.
-/

namespace BracketSpacing

variable {guard : Bool} {segments : List Segment} {k : Nat}

/-! ## Finding marks -/

namespace Placeholder

/-- The marks in a text from left to right, each with the characters that it is read from. -/
def found : List Char → List (List Char × Mark)
  | [] => []
  | c :: s =>
    match _h : Mark.read? (c :: s) with
    | some (m, rest) => ((c :: s).take ((c :: s).length - rest.length), m) :: found rest
    | none => found s
termination_by s => s.length
decreasing_by
  all_goals first
    | exact Mark.read?_rest_lt (by assumption)
    | exact Nat.lt_succ_self _

/-- The text with each mark replaced by its literal, if there is one for every mark. -/
def restore? (literals : Array (List Char)) : List Char → Option (List Char)
  | [] => some []
  | c :: s =>
    match _h : Mark.read? (c :: s) with
    | some (m, rest) => do return (← literals[m.number]?) ++ (← restore? literals rest)
    | none => (restore? literals s).map (c :: ·)
termination_by s => s.length
decreasing_by
  all_goals first
    | exact Mark.read?_rest_lt (by assumption)
    | exact Nat.lt_succ_self _

/-- The mark that stands for a literal, with its text. -/
def entry (i : Nat) (literal : List Char) : List Char × Mark :=
  ((Mark.mk i (hasLineBreak literal)).text, ⟨i, hasLineBreak literal⟩)

variable {c : Char} {s rest : List Char} {m : Mark} {table : Array (List Char)}

theorem found_of_read? (h : Mark.read? (c :: s) = some (m, rest)) :
    found (c :: s) = ((c :: s).take ((c :: s).length - rest.length), m) :: found rest := by
  rw [found]
  split
  · rename_i h'
    rw [h] at h'
    cases h'
    rfl
  · rename_i h'
    rw [h] at h'
    cases h'

theorem found_of_read?_eq_none (h : Mark.read? (c :: s) = none) : found (c :: s) = found s := by
  rw [found]
  split
  · rename_i h'
    rw [h] at h'
    cases h'
  · rfl

theorem found_mark (m : Mark) (s : List Char) : found (m.text ++ s) = (m.text, m) :: found s := by
  have h := Piece.read?_append m s
  have htake : (m.text ++ s).take ((m.text ++ s).length - s.length) = m.text := by
    rw [List.length_append, Nat.add_sub_cancel, List.take_left]
  rw [Mark.text, List.cons_append] at h htake ⊢
  rw [found_of_read? h, htake]

theorem found_cons_of_ne (hc : c ≠ opening) (s : List Char) : found (c :: s) = found s :=
  found_of_read?_eq_none (by rw [Mark.read?, if_pos (Or.inl hc)])

theorem restore_of_read? (h : Mark.read? (c :: s) = some (m, rest)) :
    restore table (c :: s) = table[m.number]?.getD [] ++ restore table rest := by
  rw [restore]
  split
  · rename_i h'
    rw [h] at h'
    cases h'
    rfl
  · rename_i h'
    rw [h] at h'
    cases h'

theorem restore_of_read?_eq_none (h : Mark.read? (c :: s) = none) :
    restore table (c :: s) = c :: restore table s := by
  rw [restore]
  split
  · rename_i h'
    rw [h] at h'
    cases h'
  · rfl

/-- Literals are put back without fail if there is one for every mark that is found. -/
theorem restore?_eq_some (h : ∀ x ∈ found s, x.2.number < table.size) :
    restore? table s = some (restore table s) := by
  fun_induction restore? table s with
  | case1 => rw [restore]
  | case2 c s m rest hread ih =>
    rw [found_of_read? hread] at h
    have hnumber : m.number < table.size := h _ List.mem_cons_self
    rw [restore_of_read? hread, Array.getElem?_eq_getElem hnumber, ih fun x hx => h x (List.mem_cons_of_mem _ hx)]
    rfl
  | case3 c s hread ih =>
    rw [found_of_read?_eq_none hread] at h
    rw [restore_of_read?_eq_none hread, ih h]
    rfl

end Placeholder

/-! ## Masked pieces -/

namespace Piece

open Placeholder (opening isDelimiter found entry)

/-- The marks in masked pieces are those of the literals in order, if no code looks like the start of a mark. -/
theorem found_masked : ∀ (p : List Piece) (k : Nat), (∀ c, code c ∈ p → c ≠ opening) →
    found (masked k p) = (literals p).mapIdx fun i => entry (k + i)
  | [], _, _ => by rw [masked, found]; rfl
  | code c :: p, k, hcode => by
    rw [masked, Placeholder.found_cons_of_ne (hcode c List.mem_cons_self),
      found_masked p k fun d hd => hcode d (List.mem_cons_of_mem _ hd)]
    rfl
  | literal s :: p, k, hcode => by
    rw [masked, Placeholder.found_mark, found_masked p (k + 1) fun d hd => hcode d (List.mem_cons_of_mem _ hd),
      literals, List.mapIdx_cons]
    simp only [Nat.add_right_comm, Nat.add_assoc]
    rfl

/-- Sweeps over a masked text are masked sweeps over its pieces. -/
theorem iterate_padAll_masked (guard : Bool) (p : List Piece) (k n : Nat) :
    (Bracket.padAll guard)^[n] (masked k p) = masked k (((alphabet true).padAll guard)^[n] p) := by
  induction n with
  | zero => rfl
  | succ n ih => rw [Function.iterate_succ_apply', Function.iterate_succ_apply', ih, padAll_masked]

theorem literals_iterate_padAll (guard : Bool) (p : List Piece) (n : Nat) :
    literals (((alphabet true).padAll guard)^[n] p) = literals p := by
  induction n with
  | zero => rfl
  | succ n ih => rw [Function.iterate_succ_apply', literals_padAll, ih]

/-- Sweeps bring no mark characters into the code. -/
theorem any_isDelimiter_iterate_padAll (guard : Bool) (p : List Piece) (n : Nat) :
    (joined (((alphabet true).padAll guard)^[n] p)).any isDelimiter = (joined p).any isDelimiter := by
  induction n with
  | zero => rfl
  | succ n ih => rw [Function.iterate_succ_apply', any_isDelimiter_joined (respaced_padAll guard true _), ih]

theorem ne_opening_of_mem {p : List Piece} (h : (joined p).any isDelimiter = false) :
    ∀ c, code c ∈ p → c ≠ opening := by
  rintro c hc rfl
  rw [List.any_eq_false] at h
  exact h _ (mem_joined_of_mem hc) (by decide)

/-- However often masked pieces are swept, their marks are found as they were. -/
theorem found_iterate_masked {p : List Piece} (h : (joined p).any isDelimiter = false) (guard : Bool) (n : Nat) :
    found ((Bracket.padAll guard)^[n] (masked 0 p)) = (literals p).mapIdx entry := by
  have hcode := ne_opening_of_mem ((any_isDelimiter_iterate_padAll guard p n).trans h)
  rw [iterate_padAll_masked, found_masked _ 0 hcode, literals_iterate_padAll]
  simp only [Nat.zero_add]

end Piece

/-! ## Masked segments -/

/-- The text after passes is that after some number of steps. -/
theorem exists_iterate_settleFrom (step : List Char → List Char) : ∀ (limit used : Nat) (text : List Char),
    ∃ n, n ≤ limit ∧ (settleFrom step used limit text).text = step^[n] text
  | 0, _, _ => ⟨0, Nat.le_refl 0, rfl⟩
  | limit + 1, used, text => by
    rw [settleFrom]
    split
    · exact ⟨0, Nat.zero_le _, rfl⟩
    · obtain ⟨n, hn, htext⟩ := exists_iterate_settleFrom step limit (used + 1) (step text)
      exact ⟨n + 1, Nat.succ_le_succ hn, htext⟩

theorem any_isDelimiter_joined_segments : ∀ {segments : List Segment},
    (∀ s ∈ segments, s.text.any Placeholder.isDelimiter = false) →
      (Segment.joined segments).any Placeholder.isDelimiter = false
  | [], _ => rfl
  | s :: segments, h => by
    rw [Segment.joined_cons, List.any_append, h s List.mem_cons_self,
      any_isDelimiter_joined_segments fun t ht => h t (List.mem_cons_of_mem _ ht)]
    rfl

namespace Placeholder

/-- **Marks outlive every pass.** In masked segments without mark characters of their own, and after any number of
sweeps over them, the marks that are found are those of the literals: one for each in order, with its number and its
line feed. So for every mark there is a literal to put back, whatever the limit on passes, and without a pass this gives
the text of the segments. -/
theorem found_iterate_padAll (h : ∀ s ∈ segments, s.text.any isDelimiter = false) (guard : Bool) :
    (∀ n, found ((Bracket.padAll guard)^[n] (mask segments)) =
      (literals segments).mapIdx fun i s => ((Mark.mk i (hasLineBreak s)).text, ⟨i, hasLineBreak s⟩)) ∧
    (∀ n, ∀ x ∈ found ((Bracket.padAll guard)^[n] (mask segments)), x.2.number < (literals segments).length) ∧
    (∀ limit, restore? (literals segments).toArray (settleCode guard limit (mask segments)).text =
      some (settleMasked guard limit segments).text) ∧
    restore? (literals segments).toArray (mask segments) = some (Segment.joined segments) := by
  have hclean : (Piece.joined (Piece.ofSegments segments)).any isDelimiter = false := by
    rw [Piece.joined_ofSegments]
    exact any_isDelimiter_joined_segments h
  have hfound : ∀ n, found ((Bracket.padAll guard)^[n] (mask segments)) = (literals segments).mapIdx entry := by
    intro n
    rw [mask, Piece.maskFrom_eq_masked, Piece.found_iterate_masked hclean, Piece.literals_ofSegments]
  have hbound : ∀ n, ∀ x ∈ found ((Bracket.padAll guard)^[n] (mask segments)),
      x.2.number < (literals segments).length := by
    intro n x hx
    rw [hfound] at hx
    obtain ⟨i, hi, rfl⟩ := List.mem_mapIdx.mp hx
    exact hi
  have hrestored : ∀ n, restore? (literals segments).toArray ((Bracket.padAll guard)^[n] (mask segments)) =
      some (restore (literals segments).toArray ((Bracket.padAll guard)^[n] (mask segments))) := fun n =>
    restore?_eq_some (hbound n)
  refine ⟨hfound, hbound, fun limit => ?_, ?_⟩
  · obtain ⟨n, -, htext⟩ := exists_iterate_settleFrom (Bracket.padAll guard) limit 0 (mask segments)
    have hsettled : (settleCode guard limit (mask segments)).text = (Bracket.padAll guard)^[n] (mask segments) := htext
    rw [settleMasked, hsettled]
    exact hrestored n
  · have hzero := hrestored 0
    rw [Function.iterate_zero_apply] at hzero
    rw [hzero, mask, Piece.maskFrom_eq_masked, ← Piece.literals_ofSegments, restore_literals hclean,
      Piece.joined_ofSegments]

theorem found_iterate_padAll_arrays :
    (∀ s ∈ [Segment.code "[1".toList, Segment.literal "'a\n'".toList, Segment.code "2],[[3".toList,
      Segment.literal "'b'".toList, Segment.code "4]]".toList], s.text.any isDelimiter = false) ∧
    (Bracket.padAll true)^[2] (mask [Segment.code "[1".toList, Segment.literal "'a\n'".toList,
      Segment.code "2],[[3".toList, Segment.literal "'b'".toList, Segment.code "4]]".toList]) =
        "[1\uE0000\n\uE0012],[[ 3\uE0001\uE0014 ]]".toList ∧
    found "[1\uE0000\n\uE0012],[[ 3\uE0001\uE0014 ]]".toList =
      [("\uE0000\n\uE001".toList, ⟨0, true⟩), ("\uE0001\uE001".toList, ⟨1, false⟩)] := by
  have hclean : ∀ s ∈ [Segment.code "[1".toList, Segment.literal "'a\n'".toList, Segment.code "2],[[3".toList,
      Segment.literal "'b'".toList, Segment.code "4]]".toList], s.text.any isDelimiter = false := by decide
  have hswept : (Bracket.padAll true)^[2] (mask [Segment.code "[1".toList, Segment.literal "'a\n'".toList,
      Segment.code "2],[[3".toList, Segment.literal "'b'".toList, Segment.code "4]]".toList]) =
        "[1\uE0000\n\uE0012],[[ 3\uE0001\uE0014 ]]".toList := by cbv
  have hfound := (found_iterate_padAll hclean true).1 2
  rw [hswept] at hfound
  exact ⟨hclean, hswept, hfound.trans (by cbv)⟩

end Placeholder

end BracketSpacing
