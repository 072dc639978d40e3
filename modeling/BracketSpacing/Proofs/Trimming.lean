import Mathlib.Data.List.DropRight
import Mathlib.Logic.Function.Iterate
import BracketSpacing.Text.Trim
import BracketSpacing.Text.Word

/-!
# Trimming as a strip of one class at both ends

* `strippedOf p l`: a list without the longest runs of `p` at its ends; `Solid p l` says that no such runs are left.
* A list is a run of `p`, its stripped part and another run of `p` (`exists_strippedOf`), and no other cut of that kind
  is solid (`strippedOf_append`).
* `IsLongest`: the longest part of a list within a class, such as its longest prefix. What is stripped are the longest
  prefix and the longest suffix, if anything is left (`eq_append_strippedOf_append`).
* A round of trimming strips trimmable characters only (`strippedOf_trimRound`) and leaves no blank at the ends
  (`solid_trimRound`). Hence rounds until neither end is invisible strip the union of both classes
  (`trim_eq_strippedOf`), and there are no more of them than the text has characters (`exists_rounds`).
* No trimmable character is a word character (`isWordChar_of_isTrimmable`) or part of a label
  (`isLabelRest_of_isTrimmable`).
-/

namespace BracketSpacing.Text

section Strip

variable {α : Type} {p q : α → Bool}

/-- Neither the first nor the last element is in the class. -/
def Solid (p : α → Bool) (l : List α) : Prop :=
  (∀ c ∈ l.head?, p c = false) ∧ ∀ c ∈ l.getLast?, p c = false

/-- The list without the longest runs of the class at its two ends. -/
def strippedOf (p : α → Bool) (l : List α) : List α :=
  (l.dropWhile p).rdropWhile p

theorem head?_dropWhile_eq_false {l : List α} : ∀ c ∈ (l.dropWhile p).head?, p c = false := by
  intro c hc
  have h := List.head?_dropWhile_not p l
  rw [hc] at h
  exact h

theorem takeWhile_eq_nil_of_head? : ∀ {l : List α}, (∀ c ∈ l.head?, p c = false) → l.takeWhile p = []
  | [], _ => rfl
  | x :: l, h => by
    have hx : p x = false := h x rfl
    rw [List.takeWhile_cons_of_neg (by simp [hx])]

theorem rdropWhile_append_of_forall {a b : List α} (hb : ∀ c ∈ b, p c = true) :
    (a ++ b).rdropWhile p = a.rdropWhile p := by
  unfold List.rdropWhile
  rw [List.reverse_append, List.dropWhile_append_of_pos (fun c hc => hb c (List.mem_reverse.mp hc))]

theorem rdropWhile_eq_self_of_getLast? {l : List α} (h : ∀ c ∈ l.getLast?, p c = false) : l.rdropWhile p = l := by
  unfold List.rdropWhile
  rw [dropWhile_eq_self_of_head? (by simpa using h), List.reverse_reverse]

/-- Only a solid part between two runs of the class is the stripped list. -/
theorem strippedOf_append {a m b : List α} (ha : ∀ c ∈ a, p c = true) (hm : Solid p m) (hb : ∀ c ∈ b, p c = true) :
    strippedOf p (a ++ m ++ b) = m := by
  unfold strippedOf
  rw [List.append_assoc, List.dropWhile_append_of_pos ha]
  cases m with
  | nil =>
    have hnil : b.dropWhile p = [] := List.dropWhile_eq_nil_iff.mpr hb
    rw [List.nil_append, hnil]
    rfl
  | cons x m =>
    rw [dropWhile_eq_self_of_head? (by simpa using hm.1), rdropWhile_append_of_forall hb,
      rdropWhile_eq_self_of_getLast? hm.2]

theorem strippedOf_of_solid {m : List α} (hm : Solid p m) : strippedOf p m = m := by
  simpa using strippedOf_append (a := []) (b := []) (by simp) hm (by simp)

/-- A list is its stripped part between two runs of the class. -/
theorem exists_strippedOf (p : α → Bool) (l : List α) :
    ∃ a b, l = a ++ strippedOf p l ++ b ∧ (∀ c ∈ a, p c = true) ∧ ∀ c ∈ b, p c = true := by
  refine ⟨l.takeWhile p, (l.dropWhile p).rtakeWhile p, ?_, fun c hc => List.mem_takeWhile_imp hc,
    fun c hc => List.mem_rtakeWhile_imp hc⟩
  unfold strippedOf
  rw [List.append_assoc, List.rdropWhile_append_rtakeWhile, List.takeWhile_append_dropWhile]

theorem solid_strippedOf (p : α → Bool) (l : List α) : Solid p (strippedOf p l) := by
  refine ⟨fun c hc => ?_, fun c hc => ?_⟩
  · obtain ⟨r, hr⟩ := List.rdropWhile_prefix p (l.dropWhile p)
    refine head?_dropWhile_eq_false (l := l) c ?_
    rw [← hr]
    unfold strippedOf at hc
    rw [List.head?_append, hc]
    rfl
  · unfold strippedOf List.rdropWhile at hc
    rw [List.getLast?_reverse] at hc
    exact head?_dropWhile_eq_false c hc

/-- Elements of the class around a list do not matter. -/
theorem strippedOf_append_append {a b : List α} (ha : ∀ c ∈ a, p c = true) (hb : ∀ c ∈ b, p c = true) (l : List α) :
    strippedOf p (a ++ l ++ b) = strippedOf p l := by
  obtain ⟨u, v, hl, hu, hv⟩ := exists_strippedOf p l
  have hsplit : a ++ l ++ b = a ++ u ++ strippedOf p l ++ (v ++ b) := by
    conv_lhs => rw [hl]
    simp only [List.append_assoc]
  rw [hsplit]
  exact strippedOf_append (List.forall_mem_append.mpr ⟨ha, hu⟩) (solid_strippedOf p l)
    (List.forall_mem_append.mpr ⟨hv, hb⟩)

/-- Stripping a part of the class first makes no difference. -/
theorem strippedOf_strippedOf_of_imp (h : ∀ c, q c = true → p c = true) (l : List α) :
    strippedOf p (strippedOf q l) = strippedOf p l := by
  obtain ⟨a, b, hl, ha, hb⟩ := exists_strippedOf q l
  conv_rhs => rw [hl]
  exact (strippedOf_append_append (fun c hc => h c (ha c hc)) (fun c hc => h c (hb c hc)) _).symm

theorem strippedOf_map {β : Type} (p : α → Bool) (f : β → α) (l : List β) :
    strippedOf p (l.map f) = (strippedOf (p ∘ f) l).map f := by
  rw [strippedOf, strippedOf, List.rdropWhile, List.rdropWhile, List.dropWhile_map, ← List.map_reverse,
    List.dropWhile_map, List.map_reverse]

theorem strippedOf_eq_nil_iff {l : List α} : strippedOf p l = [] ↔ ∀ c ∈ l, p c = true := by
  constructor
  · intro hnil
    obtain ⟨a, b, hl, ha, hb⟩ := exists_strippedOf p l
    rw [hnil, List.append_nil] at hl
    rw [hl]
    exact List.forall_mem_append.mpr ⟨ha, hb⟩
  · intro hall
    rw [strippedOf, List.dropWhile_eq_nil_iff.mpr hall, List.rdropWhile_nil]

theorem mem_of_mem_strippedOf {l : List α} {c : α} (hc : c ∈ strippedOf p l) : c ∈ l := by
  obtain ⟨a, b, hl, _, _⟩ := exists_strippedOf p l
  rw [hl]
  simp [hc]

/-! ## Longest runs -/

/-- The longest part of a list within the class, where the parts are its prefixes, for instance. -/
structure IsLongest (part : List α → List α → Prop) (p : α → Bool) (a l : List α) : Prop where
  isPart : part a l
  within : ∀ c ∈ a, p c = true
  longest : ∀ b, part b l → (∀ c ∈ b, p c = true) → b.length ≤ a.length

theorem rtakeWhile_append_of_forall {a b : List α} (hb : ∀ c ∈ b, p c = true) :
    (a ++ b).rtakeWhile p = a.rtakeWhile p ++ b := by
  unfold List.rtakeWhile
  rw [List.reverse_append, List.takeWhile_append_of_pos (fun c hc => hb c (List.mem_reverse.mp hc)),
    List.reverse_append, List.reverse_reverse]

theorem rtakeWhile_eq_nil_of_getLast? {l : List α} (h : ∀ c ∈ l.getLast?, p c = false) : l.rtakeWhile p = [] := by
  unfold List.rtakeWhile
  rw [takeWhile_eq_nil_of_head? (by simpa using h), List.reverse_nil]

theorem isLongest_takeWhile (p : α → Bool) (l : List α) : IsLongest (· <+: ·) p (l.takeWhile p) l := by
  refine ⟨List.takeWhile_prefix p, fun c hc => List.mem_takeWhile_imp hc, ?_⟩
  rintro b ⟨rest, rfl⟩ hb
  rw [List.takeWhile_append_of_pos hb, List.length_append]
  exact Nat.le_add_right _ _

theorem isLongest_rtakeWhile (p : α → Bool) (l : List α) : IsLongest (· <:+ ·) p (l.rtakeWhile p) l := by
  refine ⟨List.rtakeWhile_suffix p l, fun c hc => List.mem_rtakeWhile_imp hc, ?_⟩
  rintro b ⟨rest, rfl⟩ hb
  rw [rtakeWhile_append_of_forall hb, List.length_append]
  exact Nat.le_add_left _ _

/-- If anything is left, a list is its stripped part between its longest prefix and its longest suffix in the class. -/
theorem eq_append_strippedOf_append {l : List α} (h : strippedOf p l ≠ []) :
    l = l.takeWhile p ++ strippedOf p l ++ l.rtakeWhile p := by
  obtain ⟨a, b, hl, ha, hb⟩ := exists_strippedOf p l
  obtain ⟨hfirst, hlast⟩ := solid_strippedOf p l
  -- The runs on both sides end where the stripped part starts and ends, for that is not empty.
  have hfront : l.takeWhile p = a := by
    conv_lhs => rw [hl]
    rw [List.append_assoc, List.takeWhile_append_of_pos ha, takeWhile_eq_nil_of_head?, List.append_nil]
    intro c hc
    rw [List.head?_append_of_ne_nil _ h] at hc
    exact hfirst c hc
  have hback : l.rtakeWhile p = b := by
    conv_lhs => rw [hl]
    rw [rtakeWhile_append_of_forall hb, rtakeWhile_eq_nil_of_getLast?, List.nil_append]
    intro c hc
    rw [List.getLast?_append_of_ne_nil _ h] at hc
    exact hlast c hc
  rw [hfront, hback]
  exact hl

end Strip

/-! ## Trimmable characters -/

theorem isTrimmable_of_isBlank {c : Char} (h : isBlank c = true) : isTrimmable c = true := by simp [isTrimmable, h]

theorem isTrimmable_of_isInvisible {c : Char} (h : isInvisible c = true) : isTrimmable c = true := by
  simp [isTrimmable, h]

/-- The code points of the trimmable characters. -/
def trimmableCodes : List Nat :=
  [0, 0x9, 0xA, 0xB, 0xC, 0xD, 0x1C, 0x1D, 0x1E, 0x1F, 0x20, 0x85, 0xA0, 0x1680, 0x180E, 0x2000, 0x2001, 0x2002, 0x2003,
   0x2004, 0x2005, 0x2006, 0x2007, 0x2008, 0x2009, 0x200A, 0x2028, 0x2029, 0x202F, 0x205F, 0x3000, 0xFEFF]

theorem isTrimmable_iff {c : Char} : isTrimmable c = true ↔ c.toNat ∈ trimmableCodes := by
  simp only [isTrimmable, isBlank, isInvisible, trimmableCodes, Bool.or_eq_true, Bool.and_eq_true, decide_eq_true_eq,
    beq_iff_eq, List.mem_cons, List.not_mem_nil, or_false]
  omega

theorem isWordChar_trimmableCodes : ∀ n ∈ trimmableCodes, isWordChar (Char.ofNat n) = false := by decide

/-- White space and invisible characters belong to no word. -/
theorem isWordChar_of_isTrimmable {c : Char} (h : isTrimmable c = true) : isWordChar c = false := by
  rw [← Char.ofNat_toNat c]
  exact isWordChar_trimmableCodes _ (isTrimmable_iff.mp h)

theorem isLabelRest_trimmableCodes : ∀ n ∈ trimmableCodes, isLabelRest (Char.ofNat n) = false := by decide

/-- White space and invisible characters belong to no label. -/
theorem isLabelRest_of_isTrimmable {c : Char} (h : isTrimmable c = true) : isLabelRest c = false := by
  rw [← Char.ofNat_toNat c]
  exact isLabelRest_trimmableCodes _ (isTrimmable_iff.mp h)

/-! ## The trimming loop -/

variable {s : List Char}

theorem strip_eq_strippedOf (p : Char → Bool) (s : List Char) : strip p s = strippedOf p s := rfl

/-- A round strips nothing but trimmable characters. -/
theorem strippedOf_trimRound (s : List Char) : strippedOf isTrimmable (trimRound s) = strippedOf isTrimmable s := by
  rw [trimRound, strip_eq_strippedOf, strip_eq_strippedOf, strippedOf_strippedOf_of_imp fun _ => isTrimmable_of_isBlank,
    strippedOf_strippedOf_of_imp fun _ => isTrimmable_of_isInvisible]

/-- After a round no blank stands at the ends. -/
theorem solid_trimRound (s : List Char) : Solid isBlank (trimRound s) :=
  solid_strippedOf isBlank _

/-- A text is trimmed if there are no blanks at its ends and no invisible characters either. -/
theorem solid_of_endsInvisible_eq_false (hb : Solid isBlank s) (h : endsInvisible s = false) :
    Solid isTrimmable s := by
  obtain ⟨hfirst, hlast⟩ := Bool.or_eq_false_iff.mp h
  refine ⟨fun c hc => ?_, fun c hc => ?_⟩
  · rw [hc] at hfirst
    exact Bool.or_eq_false_iff.mpr ⟨hb.1 c hc, hfirst⟩
  · rw [hc] at hlast
    exact Bool.or_eq_false_iff.mpr ⟨hb.2 c hc, hlast⟩

/-- Rounds on a text without blanks at its ends strip the union of both classes. -/
theorem trimRounds_eq_strippedOf (hb : Solid isBlank s) : trimRounds s = strippedOf isTrimmable s := by
  -- What a strip of both classes leaves is the same for all rounds; it is reached when no class stands at the ends.
  fun_induction trimRounds s with
  | case1 s _ ih => rw [ih (solid_trimRound s), strippedOf_trimRound]
  | case2 s hs => exact (strippedOf_of_solid (solid_of_endsInvisible_eq_false hb (by simpa using hs))).symm

/-- The rounds end when neither end is invisible, and there are no more of them than the text has characters. -/
theorem exists_rounds (s : List Char) : ∃ rounds, rounds ≤ s.length ∧
    (∀ k < rounds, endsInvisible (trimRound^[k] s) = true) ∧ endsInvisible (trimRound^[rounds] s) = false ∧
    trimRounds s = trimRound^[rounds] s := by
  fun_induction trimRounds s with
  | case1 s hs ih =>
    obtain ⟨rounds, hle, hgo, hstop, heq⟩ := ih
    have hlt := length_trimRound_lt hs
    refine ⟨rounds + 1, by omega, fun k hk => ?_, hstop, heq⟩
    cases k with
    | zero => exact hs
    | succ k => exact hgo k (by omega)
  | case2 s hs => exact ⟨0, Nat.zero_le _, fun k hk => absurd hk (Nat.not_lt_zero k), by simpa using hs, rfl⟩

/-- Trimming is one strip of the union of both classes. -/
theorem trim_eq_strippedOf (s : List Char) : trim s = strippedOf isTrimmable s := by
  rw [trim, strip_eq_strippedOf, trimRounds_eq_strippedOf (solid_strippedOf isBlank s),
    strippedOf_strippedOf_of_imp fun _ => isTrimmable_of_isBlank]

theorem trim_append {a m b : List Char} (ha : ∀ c ∈ a, isTrimmable c = true) (hm : Solid isTrimmable m)
    (hb : ∀ c ∈ b, isTrimmable c = true) : trim (a ++ m ++ b) = m := by
  rw [trim_eq_strippedOf, strippedOf_append ha hm hb]

theorem solid_trim (s : List Char) : Solid isTrimmable (trim s) := by
  rw [trim_eq_strippedOf]
  exact solid_strippedOf _ s

theorem trim_trim (s : List Char) : trim (trim s) = trim s := by
  rw [trim_eq_strippedOf (trim s), strippedOf_of_solid (solid_trim s)]

/-- **Trimming takes off the longest runs at both ends.** White space goes first, and then rounds are made for as long
as an invisible character stands at an end, which are no more rounds than the text has characters. Nothing is left
exactly if all characters are trimmable. What is left otherwise is the text between its longest prefix and its longest
suffix of trimmable characters. So trimming again changes nothing, and trimmable characters around the text do not
matter. -/
theorem trim_between_longest (s : List Char) :
    (∀ c, isTrimmable c = true ↔ c.toNat ∈ trimmableCodes) ∧
    (∃ rounds, rounds ≤ s.length ∧ (∀ k < rounds, endsInvisible (trimRound^[k] (strip isBlank s)) = true) ∧
      endsInvisible (trimRound^[rounds] (strip isBlank s)) = false ∧ trim s = trimRound^[rounds] (strip isBlank s)) ∧
    (trim s = [] ↔ ∀ c ∈ s, isTrimmable c = true) ∧
    (∃ front back, IsLongest (· <+: ·) isTrimmable front s ∧ IsLongest (· <:+ ·) isTrimmable back s ∧
      (trim s ≠ [] → s = front ++ trim s ++ back)) ∧
    trim (trim s) = trim s ∧
    ∀ x y, (∀ c ∈ x, isTrimmable c = true) → (∀ c ∈ y, isTrimmable c = true) → trim (x ++ s ++ y) = trim s := by
  refine ⟨fun _ => isTrimmable_iff, ?_, ?_, ?_, trim_trim s, ?_⟩
  · obtain ⟨rounds, hle, hgo, hstop, heq⟩ := exists_rounds (strip isBlank s)
    exact ⟨rounds, Nat.le_trans hle (length_strip_le isBlank s), hgo, hstop, heq⟩
  · rw [trim_eq_strippedOf]
    exact strippedOf_eq_nil_iff
  · rw [trim_eq_strippedOf]
    exact ⟨_, _, isLongest_takeWhile isTrimmable s, isLongest_rtakeWhile isTrimmable s, eq_append_strippedOf_append⟩
  · intro x y hx hy
    rw [trim_eq_strippedOf, trim_eq_strippedOf]
    exact strippedOf_append_append hx hy s

theorem trim_between_longest_alternating :
    trim "\uFEFF \x00\u180Ea\x00b\u3000\uFEFF ".toList = "a\x00b".toList ∧
    (∀ c ∈ "\x00 ".toList, isTrimmable c = true) ∧ (∀ c ∈ "\u2028\u180E".toList, isTrimmable c = true) ∧
    trim "\x00 \uFEFF \x00\u180Ea\x00b\u3000\uFEFF \u2028\u180E".toList = "a\x00b".toList ∧
    ∃ front back, IsLongest (· <+: ·) isTrimmable front "\uFEFF \x00\u180Ea\x00b\u3000\uFEFF ".toList ∧
      IsLongest (· <:+ ·) isTrimmable back "\uFEFF \x00\u180Ea\x00b\u3000\uFEFF ".toList ∧
      "\uFEFF \x00\u180Ea\x00b\u3000\uFEFF ".toList = front ++ "a\x00b".toList ++ back := by
  have ht : trim "\uFEFF \x00\u180Ea\x00b\u3000\uFEFF ".toList = "a\x00b".toList := by cbv
  have hx : ∀ c ∈ "\x00 ".toList, isTrimmable c = true := by simp; decide
  have hy : ∀ c ∈ "\u2028\u180E".toList, isTrimmable c = true := by simp; decide
  obtain ⟨-, -, -, ⟨front, back, hfront, hback, hcut⟩, -, haround⟩ :=
    trim_between_longest "\uFEFF \x00\u180Ea\x00b\u3000\uFEFF ".toList
  rw [ht] at hcut
  exact ⟨ht, hx, hy, (haround _ _ hx hy).trans ht, front, back, hfront, hback, hcut (by simp)⟩

end BracketSpacing.Text
