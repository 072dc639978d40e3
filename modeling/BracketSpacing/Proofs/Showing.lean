import BracketSpacing.Proofs.Errors
import BracketSpacing.Settings.Value

/-!
# Values that cannot be shown

* `Document.Holds`: a value stands in another one or, however deep, in the parts that are named there.
  `Document.HoldsOutside` leaves out the parts within which a value is shown already. What a value holds it holds
  outside any part, or that part does (`Document.HoldsOutside.avoid`), so cutting a part short within itself hides
  nothing that is not shown elsewhere.
* `Document.IsDeep`: showing a value takes more levels than there are.
* Every error is one of the two (`Document.holds_or_isDeep_of_shownAt`), and both lead to an error
  (`Document.exists_shownAt_of_holdsOutside`, `Document.exists_shownAt_of_isDeep`). Hence a value cannot be shown
  exactly if it holds a whole number of too many digits or lies too deep (`Document.exists_shownAt_iff`), and there is
  no text of it either, unless it is text by itself (`Document.exists_plain_iff`).
-/

namespace BracketSpacing

/-! ## Single values -/

/-- A whole number has more decimal digits than are shown. -/
def Text.IsOverlong (i : Int) : Prop :=
  Nat.pow 10 digitLimit ≤ i.natAbs

theorem Text.showWhole?_eq_none_iff {i : Int} : showWhole? i = none ↔ IsOverlong i := by
  rw [showWhole?, IsOverlong]
  split <;> simp_all

theorem Text.isOverlong_pow {n : Nat} (h : digitLimit ≤ n) : IsOverlong (10 ^ n) := by
  rw [IsOverlong, Int.natAbs_pow, Nat.pow_eq]
  exact Nat.pow_le_pow_right (by decide) h

/-- A value by itself cannot be shown if it is a whole number of too many digits, or a moment whose offset lies too
deep. -/
theorem Value.frame_eq_error_iff {levels : Nat} {v : Value} {e : ShowError} : v.frame levels = .error e ↔
    (∃ i, v = .int i ∧ Text.IsOverlong i ∧ e = .tooManyDigits) ∨
      ∃ m, v = .moment m ∧ levels < m.shownLevels ∧ e = .tooDeep := by
  unfold frame
  split <;> try simp
  · rename_i i
    rw [← Text.showWhole?_eq_none_iff]
    cases Text.showWhole? i <;> simp [eq_comm]
  · rename_i m
    split <;> simp_all [eq_comm]

/-! ## Values in others -/

namespace Document

variable {d : Document} {levels : Nat} {within : List Nat} {x v : Value} {e : ShowError}

/-- The first value stands in the second one, or in a part that is named there, and so on. The given parts do not
count. -/
inductive HoldsOutside (d : Document) (within : List Nat) (x : Value) : Value → Prop where
  | here {v : Value} (hv : ∀ n ∈ within, v ≠ .part n) (h : d.resolve v = x) : HoldsOutside d within x v
  | inside {u v : Value} (hv : ∀ n ∈ within, v ≠ .part n) (hu : u ∈ (d.resolve v).children)
      (h : HoldsOutside d within x u) : HoldsOutside d within x v

/-- The first value stands in the second one, or in a part that is named there, and so on. -/
def Holds (d : Document) (x v : Value) : Prop :=
  d.HoldsOutside [] x v

/-- The value holds a whole number of too many digits. -/
def HoldsOverlong (d : Document) (v : Value) : Prop :=
  ∃ i, Text.IsOverlong i ∧ d.Holds (.int i) v

/-- A value takes more levels than there are where it is shown within some parts. -/
inductive IsDeep (d : Document) : (levels : Nat) → (within : List Nat) → Value → Prop where
  | zero {within : List Nat} {v : Value} : IsDeep d 0 within v
  | offset {levels : Nat} {within within' : List Nat} {v : Value} {m : Moment}
      (hv : entered? within v = some within') (hm : d.resolve v = .moment m) (h : levels < m.shownLevels) :
      IsDeep d (levels + 1) within v
  | inside {levels : Nat} {within within' : List Nat} {u v : Value} (hv : entered? within v = some within')
      (hu : u ∈ (d.resolve v).children) (h : IsDeep d levels within' u) : IsDeep d (levels + 1) within v

/-- Going into a value is going into none of the parts that it is shown within. -/
theorem entered?_eq_some_iff {within' : List Nat} : entered? within v = some within' ↔
    (∀ n ∈ within, v ≠ .part n) ∧
      (within' = within ∧ (∀ n, v ≠ .part n) ∨ ∃ n, v = .part n ∧ within' = n :: within) := by
  cases v <;> simp [entered?, eq_comm]
  grind

/-- What is held outside of more parts is held outside of fewer. -/
theorem HoldsOutside.of_cons {n : Nat} (h : d.HoldsOutside (n :: within) x v) : d.HoldsOutside within x v := by
  induction h with
  | here hv h => exact .here (fun m hm => hv m (List.mem_cons_of_mem n hm)) h
  | inside hv hu _ ih => exact .inside (fun m hm => hv m (List.mem_cons_of_mem n hm)) hu ih

/-- What a value holds it holds without going into a part, or it stands in that part. -/
theorem HoldsOutside.avoid (h : d.HoldsOutside within x v) (n : Nat) :
    d.HoldsOutside (n :: within) x v ∨
      d.partAt n = x ∨ ∃ u ∈ (d.partAt n).children, d.HoldsOutside (n :: within) x u := by
  have hcons : ∀ {v : Value}, (∀ m ∈ within, v ≠ .part m) → v ≠ .part n → ∀ m ∈ n :: within, v ≠ .part m :=
    fun hv hn => List.forall_mem_cons.mpr ⟨hn, hv⟩
  induction h with
  | @here v hv h =>
    by_cases hn : v = .part n
    · subst hn
      exact Or.inr (Or.inl h)
    · exact Or.inl (.here (hcons hv hn) h)
  | @inside u v hv hu _ ih =>
    rcases ih with ih | ih
    · by_cases hn : v = .part n
      · subst hn
        exact Or.inr (Or.inr ⟨u, hu, ih⟩)
      · exact Or.inl (.inside (hcons hv hn) hu ih)
    · exact Or.inr ih

/-! ## Errors -/

/-- One level of showing a value that is gone into. -/
theorem shownAt_succ {within' : List Nat} (hv : entered? within v = some within') :
    d.shownAt (levels + 1) within v = (d.resolve v).frame levels >>= fun frame =>
      ((d.resolve v).children.mapM (d.shownAt levels within')) >>= fun shown => pure (frame shown) := by
  rw [shownAt, hv]

/-- A value that is gone into has an error of its own, or that of the first value in it with one. -/
theorem shownAt_succ_eq_error {within' : List Nat} (hv : entered? within v = some within')
    (h : d.shownAt (levels + 1) within v = .error e) :
    (d.resolve v).frame levels = .error e ∨ ∃ u ∈ (d.resolve v).children, d.shownAt levels within' u = .error e := by
  rw [shownAt_succ hv, bind_eq_error_iff] at h
  rcases h with h | ⟨frame, -, h⟩
  · exact Or.inl h
  · rcases bind_eq_error_iff.mp h with h | ⟨_, -, h⟩
    · obtain ⟨front, u, back, hchildren, -, hu⟩ := mapM_eq_error_iff.mp h
      exact Or.inr ⟨u, by simp [hchildren], hu⟩
    · exact absurd h pure_ne_error

/-- A value that is gone into cannot be shown if it cannot by itself, or if a value in it cannot. -/
theorem exists_shownAt_succ {within' : List Nat} (hv : entered? within v = some within')
    (h : (∃ e, (d.resolve v).frame levels = .error e) ∨
      ∃ u ∈ (d.resolve v).children, ∃ e, d.shownAt levels within' u = .error e) :
    ∃ e, d.shownAt (levels + 1) within v = .error e := by
  rw [shownAt_succ hv]
  cases hframe : (d.resolve v).frame levels with
  | error e => exact ⟨e, rfl⟩
  | ok frame =>
    rcases h with ⟨e, he⟩ | h
    · cases hframe.symm.trans he
    · obtain ⟨e, he⟩ := exists_mapM_eq_error_iff.mpr h
      exact ⟨e, bind_eq_error_iff.mpr (Or.inr ⟨frame, rfl, bind_eq_error_iff.mpr (Or.inl he)⟩)⟩

/-- An error is one about a whole number of too many digits that the value holds, or the value is too deep. -/
theorem holds_or_isDeep_of_shownAt : ∀ {levels : Nat} {within : List Nat} {v : Value},
    d.shownAt levels within v = .error e →
      e = .tooManyDigits ∧ (∃ i, Text.IsOverlong i ∧ d.HoldsOutside within (.int i) v) ∨
        e = .tooDeep ∧ d.IsDeep levels within v
  | 0, _, _, h => by
    cases h
    exact Or.inr ⟨rfl, .zero⟩
  | levels + 1, within, v, h => by
    cases hv : entered? within v with
    | none => simp [shownAt, hv] at h
    | some within' =>
      obtain ⟨hout, hwithin⟩ := entered?_eq_some_iff.mp hv
      rcases shownAt_succ_eq_error hv h with h | ⟨u, hu, h⟩
      · rcases Value.frame_eq_error_iff.mp h with ⟨i, hi, hlong, rfl⟩ | ⟨m, hm, hlt, rfl⟩
        · exact Or.inl ⟨rfl, i, hlong, .here hout hi⟩
        · exact Or.inr ⟨rfl, .offset hv hm hlt⟩
      · rcases holds_or_isDeep_of_shownAt h with ⟨rfl, i, hi, hu'⟩ | ⟨rfl, hu'⟩
        · have hholds : d.HoldsOutside within (.int i) u := by
            rcases hwithin with ⟨rfl, -⟩ | ⟨n, -, rfl⟩
            · exact hu'
            · exact hu'.of_cons
          exact Or.inl ⟨rfl, i, hi, .inside hout hu hholds⟩
        · exact Or.inr ⟨rfl, .inside hv hu hu'⟩

/-- A value that is too deep cannot be shown. -/
theorem exists_shownAt_of_isDeep (h : d.IsDeep levels within v) : ∃ e, d.shownAt levels within v = .error e := by
  induction h with
  | zero => exact ⟨_, rfl⟩
  | offset hv hm h =>
    exact exists_shownAt_succ hv (Or.inl ⟨_, Value.frame_eq_error_iff.mpr (Or.inr ⟨_, hm, h, rfl⟩)⟩)
  | inside hv hu _ ih => exact exists_shownAt_succ hv (Or.inr ⟨_, hu, ih⟩)

/-- A value that holds a whole number of too many digits cannot be shown, with however many levels. -/
theorem exists_shownAt_of_holdsOutside {i : Int} (hi : Text.IsOverlong i) : ∀ {levels : Nat} {within : List Nat}
    {v : Value}, d.HoldsOutside within (.int i) v → ∃ e, d.shownAt levels within v = .error e
  | 0, _, _, _ => ⟨_, rfl⟩
  | levels + 1, within, v, h => by
    have hover : ∀ {v : Value}, d.resolve v = .int i → ∃ e, (d.resolve v).frame levels = .error e :=
      fun h => ⟨_, Value.frame_eq_error_iff.mpr (Or.inl ⟨i, h, hi, rfl⟩)⟩
    have hout : ∀ n ∈ within, v ≠ .part n := by
      cases h with
      | here hv => exact hv
      | inside hv => exact hv
    by_cases hpart : ∃ n, v = .part n
    · obtain ⟨n, rfl⟩ := hpart
      have hv := entered?_eq_some_iff.mpr ⟨hout, Or.inr ⟨n, rfl, rfl⟩⟩
      -- Within the part it need not be gone into again.
      refine exists_shownAt_succ hv ?_
      cases h with
      | here _ h => exact Or.inl (hover h)
      | inside _ hu h =>
        rcases h.avoid n with h | h | ⟨u, hu', h⟩
        · exact Or.inr ⟨_, hu, exists_shownAt_of_holdsOutside hi h⟩
        · exact Or.inl (hover h)
        · exact Or.inr ⟨u, hu', exists_shownAt_of_holdsOutside hi h⟩
    · have hv := entered?_eq_some_iff.mpr ⟨hout, Or.inl ⟨rfl, fun n hn => hpart ⟨n, hn⟩⟩⟩
      refine exists_shownAt_succ hv ?_
      cases h with
      | here _ h => exact Or.inl (hover h)
      | inside _ hu h => exact Or.inr ⟨_, hu, exists_shownAt_of_holdsOutside hi h⟩

/-- A value cannot be shown exactly if it holds a whole number of too many digits or is too deep. -/
theorem exists_shownAt_iff :
    (∃ e, d.shownAt levels [] v = .error e) ↔ d.HoldsOverlong v ∨ d.IsDeep levels [] v := by
  constructor
  · rintro ⟨e, h⟩
    rcases holds_or_isDeep_of_shownAt h with ⟨-, h⟩ | ⟨-, h⟩
    · exact Or.inl h
    · exact Or.inr h
  · rintro (⟨i, hi, h⟩ | h)
    · exact exists_shownAt_of_holdsOutside hi h
    · exact exists_shownAt_of_isDeep h

/-! ## Values as text -/

/-- The value is text by itself, and is not shown. -/
inductive IsPlain : Value → Prop where
  | text (s : List Text.CodePoint) : IsPlain (.text s)
  | date (t : Date) : IsPlain (.date t)
  | moment (m : Moment) : IsPlain (.moment m)

theorem plain_eq_error_iff : d.plain levels v = .error e ↔ ¬IsPlain v ∧ d.shownAt levels [] v = .error e := by
  by_cases hplain : IsPlain v
  · cases hplain <;> simp [plain, IsPlain.text, IsPlain.date, IsPlain.moment]
  · have hshown : d.plain levels v = (d.shownAt levels [] v).map Text.pointsOf := by
      cases v with
      | text s => exact absurd (.text s) hplain
      | date t => exact absurd (.date t) hplain
      | moment m => exact absurd (.moment m) hplain
      | _ => rfl
    rw [hshown]
    cases d.shownAt levels [] v <;> simp [Except.map, hplain]

/-- Of all others there is no text exactly if they cannot be shown. -/
theorem exists_plain_iff :
    (∃ e, d.plain levels v = .error e) ↔ ¬IsPlain v ∧ (d.HoldsOverlong v ∨ d.IsDeep levels [] v) := by
  simp only [plain_eq_error_iff, exists_and_left, exists_shownAt_iff]

end Document

end BracketSpacing
