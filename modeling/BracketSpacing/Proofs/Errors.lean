import Mathlib

/-!
# Steps that may fail

* A step after another fails if the first does, or else if it does (`bind_eq_error_iff`).
* A list that is read item by item gives the error of the first item that has one (`mapM_eq_error_iff`).
-/

namespace BracketSpacing

variable {ε α β : Type} {x : Except ε α} {f : α → Except ε β} {e : ε}

theorem bind_eq_ok_iff {b : β} : (x >>= f) = .ok b ↔ ∃ a, x = .ok a ∧ f a = .ok b := by
  cases x <;> simp [bind, Except.bind]

theorem bind_eq_error_iff : (x >>= f) = .error e ↔ x = .error e ∨ ∃ a, x = .ok a ∧ f a = .error e := by
  cases x <;> simp [bind, Except.bind]

theorem toOption_eq_some_iff {a : α} : x.toOption = some a ↔ x = .ok a := by
  cases x <;> simp [Except.toOption]

theorem pure_ne_error {b : β} : (pure b : Except ε β) ≠ .error e := by
  simp [pure, Except.pure]

/-- The first item with an error ends the reading of a list. -/
theorem mapM_eq_error_iff {items : List α} : items.mapM f = .error e ↔
    ∃ front item back, items = front ++ item :: back ∧ (∀ a ∈ front, ∃ b, f a = .ok b) ∧ f item = .error e := by
  induction items with
  | nil => simp [pure_ne_error]
  | cons a items ih =>
    rw [List.mapM_cons, bind_eq_error_iff]
    constructor
    · rintro (ha | ⟨b, hb, h⟩)
      · exact ⟨[], a, items, rfl, by simp, ha⟩
      · obtain h | ⟨_, -, h⟩ := bind_eq_error_iff.mp h
        · obtain ⟨front, item, back, rfl, hfront, hitem⟩ := ih.mp h
          exact ⟨a :: front, item, back, rfl, List.forall_mem_cons.mpr ⟨⟨b, hb⟩, hfront⟩, hitem⟩
        · exact absurd h pure_ne_error
    · rintro ⟨front, item, back, h, hfront, hitem⟩
      cases front with
      | nil =>
        cases h
        exact Or.inl hitem
      | cons a' front =>
        cases h
        obtain ⟨⟨b, hb⟩, hfront⟩ := List.forall_mem_cons.mp hfront
        exact Or.inr ⟨b, hb, bind_eq_error_iff.mpr (Or.inl (ih.mpr ⟨front, item, back, rfl, hfront, hitem⟩))⟩

theorem mapM_eq_ok_iff {items : List α} {bs : List β} :
    items.mapM f = .ok bs ↔ List.Forall₂ (fun a b => f a = .ok b) items bs := by
  induction items generalizing bs with
  | nil => cases bs <;> simp [pure, Except.pure]
  | cons a items ih =>
    rw [List.mapM_cons, List.forall₂_cons_left_iff, bind_eq_ok_iff]
    simp only [bind_eq_ok_iff, ih, pure, Except.pure, Except.ok.injEq, eq_comm (b := bs), exists_and_left]

/-- A list is not read exactly if one of its items is not. -/
theorem exists_mapM_eq_error_iff {items : List α} :
    (∃ e, items.mapM f = .error e) ↔ ∃ a ∈ items, ∃ e, f a = .error e := by
  constructor
  · rintro ⟨e, h⟩
    obtain ⟨front, item, back, rfl, -, hitem⟩ := mapM_eq_error_iff.mp h
    exact ⟨item, by simp, e, hitem⟩
  · rintro ⟨a, ha, e, he⟩
    induction items with
    | nil => cases ha
    | cons b items ih =>
      rw [List.mapM_cons]
      cases hb : f b with
      | error e' => exact ⟨e', rfl⟩
      | ok c =>
        obtain ⟨e', he'⟩ := ih (List.mem_of_ne_of_mem (by rintro rfl; simp [he] at hb) ha)
        exact ⟨e', by rw [he']; rfl⟩

end BracketSpacing
