import Mathlib
import BracketSpacing.Proofs.Showing
import BracketSpacing.Settings.Read

/-!
# Which mappings hold settings

* `Settings.keys`: the keys of settings in the order in which they are read, with what is taken for each
  (`Document.Admits`).
* `Document.Fault`: what is said of a value that does not do for a key. `Document.Texts`: the texts that a value stands
  for.
* A reader fails with the faults of a value, and gives what it stands for (`Document.Reads`); so does the field of a
  mapping (`Document.field_eq_error_iff`, `Document.field_eq_ok_iff`).
* `Document.FirstFault`: the fault at the first key that has one. It is reported where one field is read after the other
  (`Document.bind_eq_error_iff_firstFault`).
* `Settings.document`: settings written out.
* `Settings.ofDocument_mapping`: a mapping holds no settings exactly if the value of a key does not do. The first such
  key is reported, and otherwise every field comes from its own key. Other keys and the order of the keys do not matter,
  and settings that are written out are read back.
-/

namespace BracketSpacing

/-! ## Keys and what is taken for them -/

namespace Settings

/-- What is taken for a key: a text or a list, or a single value. -/
inductive Shape where
  | texts
  | single (expected : Expected)

/-- A key of settings. -/
structure Key where
  name : String
  shape : Shape

/-- The keys of settings in the order in which they are read. -/
def keys : List Key :=
  [⟨"directories", .texts⟩, ⟨"extensions", .texts⟩, ⟨"skip_patterns", .texts⟩, ⟨"strategy", .single .text⟩,
    ⟨"max_passes", .single .int⟩, ⟨"char_class_guard", .single .bool⟩]

end Settings

namespace Document

open Settings (Shape Key)

variable {room : Room} {d : Document} {entries : List (Value × Value)} {key : Key} {keys : List Key} {v : Value}
  {e : SettingsError}

/-- The value is of the shape. Parts are collections, so no single value is one. -/
def Admits (d : Document) : Shape → Value → Prop
  | .texts, v => (∃ s, d.resolve v = .text s) ∨ ∃ items, d.resolve v = .list items
  | .single .text, v => ∃ s, v = .text s
  | .single .int, v => ∃ i, v = .int i
  | .single .bool, v => ∃ b, v = .bool b

/-- The value is a list with an item of which there is no text: one that is to be shown, but holds a whole number of too
many digits or is too deep. -/
def HasTextlessItem (room : Room) (d : Document) (v : Value) : Prop :=
  ∃ items, d.resolve v = .list items ∧
    ∃ item ∈ items, ¬IsPlain item ∧ (d.HoldsOverlong item ∨ d.IsDeep room.item [] item)

/-- The value does not do where the shape is taken: it is not of the shape, or of an item of it there is no text. -/
def Misfits (room : Room) (d : Document) : Shape → Value → Prop
  | .texts, v => ¬d.Admits .texts v ∨ HasTextlessItem room d v
  | .single expected, v => ¬d.Admits (.single expected) v

/-- The value is a list, and the error is that of the first item of which there is no text. -/
def FirstTextless (room : Room) (d : Document) (v : Value) (e : ShowError) : Prop :=
  ∃ front item back, d.resolve v = .list (front ++ item :: back) ∧
    (∀ other ∈ front, ∃ text, d.plain room.item other = .ok text) ∧ d.plain room.item item = .error e

/-- What is said of a value that does not do for a key. -/
inductive Fault (room : Room) (d : Document) : Key → Value → SettingsError → Prop where
  | notList {name : String} {v : Value} (h : ¬d.Admits .texts v) : Fault room d ⟨name, .texts⟩ v (.notList name)
  | textless {name : String} {v : Value} {e : ShowError} (h : FirstTextless room d v e) :
      Fault room d ⟨name, .texts⟩ v (.unshowable e)
  | unexpected {name : String} {expected : Expected} {v : Value} {shown : String} (h : ¬d.Admits (.single expected) v)
      (hshown : d.shownAt room.single [] v = .ok shown) :
      Fault room d ⟨name, .single expected⟩ v (.unexpected name expected shown)
  | unshown {name : String} {expected : Expected} {v : Value} {e : ShowError} (h : ¬d.Admits (.single expected) v)
      (hshown : d.shownAt room.single [] v = .error e) : Fault room d ⟨name, .single expected⟩ v (.unshowable e)

theorem fault_texts_iff {name : String} : Fault room d ⟨name, .texts⟩ v e ↔
    ¬d.Admits .texts v ∧ e = .notList name ∨ ∃ e', FirstTextless room d v e' ∧ e = .unshowable e' := by
  constructor
  · intro hfault
    cases hfault with
    | notList h => exact Or.inl ⟨h, rfl⟩
    | textless h => exact Or.inr ⟨_, h, rfl⟩
  · rintro (⟨h, rfl⟩ | ⟨e', h, rfl⟩)
    · exact .notList h
    · exact .textless h

theorem fault_single_iff {name : String} {expected : Expected} : Fault room d ⟨name, .single expected⟩ v e ↔
    ¬d.Admits (.single expected) v ∧ unexpected room d name expected v = e := by
  rw [unexpected]
  constructor
  · intro hfault
    cases hfault with
    | unexpected h hshown => exact ⟨h, by rw [hshown]⟩
    | unshown h hshown => exact ⟨h, by rw [hshown]⟩
  · rintro ⟨h, rfl⟩
    cases hshown : d.shownAt room.single [] v with
    | ok shown => exact .unexpected h hshown
    | error e => exact .unshown h hshown

/-- There is a first item without a text exactly if there is any. -/
theorem exists_firstTextless_iff : (∃ e, FirstTextless room d v e) ↔ HasTextlessItem room d v := by
  simp only [HasTextlessItem, ← exists_plain_iff, ← exists_mapM_eq_error_iff, mapM_eq_error_iff]
  constructor
  · rintro ⟨e, front, item, back, hv, h⟩
    exact ⟨_, hv, e, front, item, back, rfl, h⟩
  · rintro ⟨_, hv, e, front, item, back, rfl, h⟩
    exact ⟨e, front, item, back, hv, h⟩

/-- Something is said of a value exactly if it does not do. -/
theorem exists_fault_iff : (∃ e, Fault room d key v e) ↔ Misfits room d key.shape v := by
  obtain ⟨name, shape⟩ := key
  cases shape with
  | texts =>
    simp only [fault_texts_iff, Misfits, exists_or, exists_and_left, exists_eq, and_true, ← exists_firstTextless_iff]
    grind
  | single expected => simp only [fault_single_iff, Misfits, exists_and_left, exists_eq', and_true]

/-- Why the error is one of showing the value: it holds a whole number of too many digits, or it is too deep, or an item
of it is. -/
def Explains (room : Room) (d : Document) (v : Value) : ShowError → Prop
  | .tooManyDigits => d.HoldsOverlong v
  | .tooDeep => d.IsDeep room.single [] v ∨
      ∃ items, d.resolve v = .list items ∧ ∃ item ∈ items, d.IsDeep room.item [] item

/-- A fault names its key, unless it is that something cannot be shown, for which there is a reason. -/
theorem Fault.names (h : Fault room d key v e) :
    (∃ e', e = .unshowable e' ∧ Explains room d v e') ∨
      ∃ rest, e.message = "Config key " ++ Text.quotedString key.name ++ rest := by
  cases h with
  | notList => exact Or.inr ⟨_, rfl⟩
  | @unexpected _ expected _ shown =>
    exact Or.inr ⟨" must be of type " ++ (expected.name ++ (", got " ++ shown)),
      by simp only [SettingsError.message, String.append_assoc]⟩
  | textless h =>
    obtain ⟨front, item, back, hv, -, hitem⟩ := h
    have hmem : item ∈ (d.resolve v).children := by simp [hv, Value.children]
    refine Or.inl ⟨_, rfl, ?_⟩
    rcases holds_or_isDeep_of_shownAt (plain_eq_error_iff.mp hitem).2 with ⟨rfl, i, hi, h⟩ | ⟨rfl, h⟩
    · exact ⟨i, hi, .inside (by simp) hmem h⟩
    · exact Or.inr ⟨_, hv, item, by simp, h⟩
  | unshown _ hshown =>
    refine Or.inl ⟨_, rfl, ?_⟩
    rcases holds_or_isDeep_of_shownAt hshown with ⟨rfl, h⟩ | ⟨rfl, h⟩
    · exact h
    · exact Or.inl h

/-! ## Readers -/

section Readers

variable {α : Type} {shape : Shape} {read : Document → String → Value → Except SettingsError α}
  {means : Document → Value → α → Prop} {default a : α}

/-- The texts that a value stands for: a text for itself, and a list for its items as text. -/
inductive Texts (room : Room) (d : Document) : Value → List (List Text.CodePoint) → Prop where
  | text {v : Value} {s : List Text.CodePoint} (h : d.resolve v = .text s) : Texts room d v [s]
  | list {v : Value} {items : List Value} {texts : List (List Text.CodePoint)} (h : d.resolve v = .list items)
      (htexts : List.Forall₂ (fun item text => d.plain room.item item = .ok text) items texts) : Texts room d v texts

/-- A reader fails with the faults of values where the shape is taken, and gives what they stand for. -/
structure Reads (room : Room) (read : Document → String → Value → Except SettingsError α) (shape : Shape)
    (means : Document → Value → α → Prop) : Prop where
  error_iff (d : Document) (name : String) (v : Value) (e : SettingsError) :
    read d name v = .error e ↔ Fault room d ⟨name, shape⟩ v e
  ok_iff (d : Document) (name : String) (v : Value) (a : α) : read d name v = .ok a ↔ means d v a

theorem reads_string : Reads room (string room) (.single .text) fun _ v s => v = .text s where
  error_iff d name v e := by
    rw [fault_single_iff]
    cases v <;> simp [string, Admits]
  ok_iff d name v s := by cases v <;> simp [string]

theorem reads_whole : Reads room (whole room) (.single .int) fun _ v i => v = .int i where
  error_iff d name v e := by
    rw [fault_single_iff]
    cases v <;> simp [whole, Admits]
  ok_iff d name v i := by cases v <;> simp [whole]

theorem reads_truth : Reads room (truth room) (.single .bool) fun _ v b => v = .bool b where
  error_iff d name v e := by
    rw [fault_single_iff]
    cases v <;> simp [truth, Admits]
  ok_iff d name v b := by cases v <;> simp [truth]

theorem mapError_eq_ok_iff {ε ε' : Type} {f : ε → ε'} {x : Except ε α} : x.mapError f = .ok a ↔ x = .ok a := by
  cases x <;> simp [Except.mapError]

theorem mapError_eq_error_iff {ε ε' : Type} {f : ε → ε'} {x : Except ε α} {e' : ε'} :
    x.mapError f = .error e' ↔ ∃ e, x = .error e ∧ e' = f e := by
  cases x <;> simp [Except.mapError, eq_comm]

theorem texts_iff {texts : List (List Text.CodePoint)} : Texts room d v texts ↔
    (∃ s, d.resolve v = .text s ∧ texts = [s]) ∨ ∃ items, d.resolve v = .list items ∧
      List.Forall₂ (fun item text => d.plain room.item item = .ok text) items texts := by
  constructor
  · intro h
    cases h with
    | text h => exact Or.inl ⟨_, h, rfl⟩
    | list h htexts => exact Or.inr ⟨_, h, htexts⟩
  · rintro (⟨s, h, rfl⟩ | ⟨items, h, htexts⟩)
    · exact .text h
    · exact .list h htexts

/-- The first item of which there is no text ends the reading of a list. -/
theorem mapM_plain_eq_error_iff {items : List Value} (hv : d.resolve v = .list items) :
    items.mapM (fun item => (d.plain room.item item).mapError .unshowable) = .error e ↔
      ∃ e', FirstTextless room d v e' ∧ e = .unshowable e' := by
  simp only [mapM_eq_error_iff, mapError_eq_ok_iff, mapError_eq_error_iff, FirstTextless, hv, Value.list.injEq]
  constructor
  · rintro ⟨front, item, back, hitems, hfront, e', he', rfl⟩
    exact ⟨e', ⟨front, item, back, hitems, hfront, he'⟩, rfl⟩
  · rintro ⟨e', ⟨front, item, back, hitems, hfront, he'⟩, rfl⟩
    exact ⟨front, item, back, hitems, hfront, e', he', rfl⟩

theorem reads_strings : Reads room (strings room) .texts (Texts room) where
  error_iff d name v e := by
    rw [fault_texts_iff, strings, Admits]
    split
    · rename_i s hv
      simp [FirstTextless, hv]
    · rename_i items hv
      simp [mapM_plain_eq_error_iff hv, hv]
    · rename_i htext hlist
      have htext : ∀ s, d.resolve v ≠ .text s := htext
      have hlist : ∀ items, d.resolve v ≠ .list items := hlist
      simp [FirstTextless, htext, hlist, eq_comm]
  ok_iff d name v texts := by
    rw [texts_iff, strings]
    split
    · rename_i s hv
      simp [hv, eq_comm]
    · rename_i items hv
      simp [hv, mapM_eq_ok_iff, mapError_eq_ok_iff]
    · rename_i htext hlist
      have htext : ∀ s, d.resolve v ≠ .text s := htext
      have hlist : ∀ items, d.resolve v ≠ .list items := hlist
      simp [htext, hlist]

end Readers

/-! ## Fields of a mapping -/

/-- What is said of the value of a key in a mapping. -/
def FaultAt (room : Room) (d : Document) (entries : List (Value × Value)) (key : Key) (e : SettingsError) : Prop :=
  ∃ v, Value.get? entries key.name = some v ∧ Fault room d key v e

/-- What a field is: the default if its key is absent, and otherwise what the value of the key stands for. -/
inductive FieldIs {α : Type} (d : Document) (entries : List (Value × Value)) (name : String) (default : α)
    (means : Document → Value → α → Prop) : α → Prop where
  | absent (h : Value.get? entries name = none) : FieldIs d entries name default means default
  | present {v : Value} {a : α} (h : Value.get? entries name = some v) (hmeans : means d v a) :
      FieldIs d entries name default means a

section Fields

variable {α β : Type} {name : String} {shape : Shape} {read : Document → String → Value → Except SettingsError α}
  {means : Document → Value → α → Prop} {default a : α}

theorem field_eq_error_iff (hread : Reads room read shape means) :
    d.field entries name default read = .error e ↔ FaultAt room d entries ⟨name, shape⟩ e := by
  rw [field, FaultAt]
  cases h : Value.get? entries name with
  | none => simp
  | some v => simp [hread.error_iff]

theorem field_eq_ok_iff (hread : Reads room read shape means) :
    d.field entries name default read = .ok a ↔ d.FieldIs entries name default means a := by
  rw [field]
  cases h : Value.get? entries name with
  | none =>
    constructor
    · intro ha
      cases ha
      exact .absent h
    · intro ha
      cases ha with
      | absent => rfl
      | present hv => cases h.symm.trans hv
  | some v =>
    rw [hread.ok_iff]
    constructor
    · exact .present h
    · intro ha
      cases ha with
      | absent hv => cases h.symm.trans hv
      | present hv hmeans => cases h.symm.trans hv; exact hmeans

/-- What is said of the first key that something is said of. -/
def FirstFault (room : Room) (d : Document) (entries : List (Value × Value)) (keys : List Key) (e : SettingsError) :
    Prop :=
  ∃ front key back, keys = front ++ key :: back ∧ (∀ other ∈ front, ∀ e', ¬FaultAt room d entries other e') ∧
    FaultAt room d entries key e

theorem not_firstFault_nil : ¬FirstFault room d entries [] e := by
  rintro ⟨front, key, back, h, -⟩
  simp at h

theorem firstFault_cons_iff : FirstFault room d entries (key :: keys) e ↔
    FaultAt room d entries key e ∨ (∀ e', ¬FaultAt room d entries key e') ∧ FirstFault room d entries keys e := by
  constructor
  · rintro ⟨front, key', back, hkeys, hfront, hfault⟩
    cases front with
    | nil =>
      cases hkeys
      exact Or.inl hfault
    | cons other front =>
      cases hkeys
      exact Or.inr ⟨hfront _ List.mem_cons_self, front, key', back, rfl,
        fun other hother => hfront other (List.mem_cons_of_mem _ hother), hfault⟩
  · rintro (hfault | ⟨hkey, front, key', back, rfl, hfront, hfault⟩)
    · exact ⟨[], key, keys, rfl, by simp, hfault⟩
    · exact ⟨key :: front, key', back, rfl, List.forall_mem_cons.mpr ⟨hkey, hfront⟩, hfault⟩

theorem exists_firstFault_iff :
    (∃ e, FirstFault room d entries keys e) ↔ ∃ key ∈ keys, ∃ e, FaultAt room d entries key e := by
  induction keys with
  | nil => simp [not_firstFault_nil]
  | cons key keys ih =>
    rw [List.exists_mem_cons_iff, ← ih]
    simp only [firstFault_cons_iff]
    by_cases hkey : ∃ e, FaultAt room d entries key e
    · obtain ⟨e, he⟩ := hkey
      exact ⟨fun _ => Or.inl ⟨e, he⟩, fun _ => ⟨e, Or.inl he⟩⟩
    · have hnone : ∀ e, ¬FaultAt room d entries key e := fun e he => hkey ⟨e, he⟩
      simp [hnone]

/-- Where one field is read after the other, the first fault is reported. -/
theorem bind_eq_error_iff_firstFault {x : Except SettingsError α} {f : α → Except SettingsError β}
    (hx : ∀ e, x = .error e ↔ FaultAt room d entries key e)
    (hf : ∀ a e, f a = .error e ↔ FirstFault room d entries keys e) (e : SettingsError) :
    (x >>= f) = .error e ↔ FirstFault room d entries (key :: keys) e := by
  rw [bind_eq_error_iff, firstFault_cons_iff, hx]
  simp only [hf, ← hx]
  cases x <;> simp

end Fields

end Document

/-! ## Settings of a mapping -/

namespace Settings

open Document

variable {room : Room} {d : Document} {entries : List (Value × Value)} {s : Settings} {e : SettingsError}

theorem ofEntries_eq_error_iff (e : SettingsError) :
    ofEntries room d entries = .error e ↔ FirstFault room d entries keys e :=
  bind_eq_error_iff_firstFault (fun _ => field_eq_error_iff reads_strings)
    (fun _ => bind_eq_error_iff_firstFault (fun _ => field_eq_error_iff reads_strings)
      fun _ => bind_eq_error_iff_firstFault (fun _ => field_eq_error_iff reads_strings)
        fun _ => bind_eq_error_iff_firstFault (fun _ => field_eq_error_iff reads_string)
          fun _ => bind_eq_error_iff_firstFault (fun _ => field_eq_error_iff reads_whole)
            fun _ => bind_eq_error_iff_firstFault (fun _ => field_eq_error_iff reads_truth)
              fun _ _ => by simp [not_firstFault_nil, pure, Except.pure]) e

/-- Every field of the settings is that of its own key. -/
structure ComeFrom (room : Room) (d : Document) (entries : List (Value × Value)) (s : Settings) : Prop where
  directories : d.FieldIs entries "directories" ({} : Selection).directories (Texts room) s.selection.directories
  extensions : d.FieldIs entries "extensions" ({} : Selection).extensions (Texts room) s.selection.extensions
  skipPatterns : d.FieldIs entries "skip_patterns" ({} : Selection).skipPatterns (Texts room) s.selection.skipPatterns
  strategy : d.FieldIs entries "strategy" ({} : Spacing).strategy (fun _ v s => v = .text s) s.spacing.strategy
  maxPasses : d.FieldIs entries "max_passes" ({} : Spacing).maxPasses (fun _ v i => v = .int i) s.spacing.maxPasses
  classGuard : d.FieldIs entries "char_class_guard" ({} : Spacing).classGuard (fun _ v b => v = .bool b)
    s.spacing.classGuard

theorem ofEntries_eq_ok_iff : ofEntries room d entries = .ok s ↔ ComeFrom room d entries s := by
  simp only [ofEntries, bind_eq_ok_iff, field_eq_ok_iff reads_strings, field_eq_ok_iff reads_string,
    field_eq_ok_iff reads_whole, field_eq_ok_iff reads_truth, pure, Except.pure, Except.ok.injEq]
  constructor
  · rintro ⟨_, h₁, _, h₂, _, h₃, _, h₄, _, h₅, _, h₆, rfl⟩
    exact ⟨h₁, h₂, h₃, h₄, h₅, h₆⟩
  · rintro ⟨h₁, h₂, h₃, h₄, h₅, h₆⟩
    exact ⟨_, h₁, _, h₂, _, h₃, _, h₄, _, h₅, _, h₆, rfl⟩

/-- A mapping that says nothing is read like any other. -/
theorem ofDocument_eq_ofEntries (h : d.resolve d.value = .map entries) :
    ofDocument room d = ofEntries room d entries := by
  rw [ofDocument, isVoid, h]
  cases entries with
  | nil => rfl
  | cons entry entries => rfl

end Settings

/-! ## Entries of a mapping -/

namespace Value

variable {k v : Value} {name : String} {entries : List (Value × Value)}

/-- The entries have at most one value for a key, as a mapping has. -/
def IsFunctional (entries : List (Value × Value)) (name : String) : Prop :=
  ∀ v w, (ofString name, v) ∈ entries → (ofString name, w) ∈ entries → v = w

theorem get?_cons_self : get? ((ofString name, v) :: entries) name = some v := by
  simp [get?, ofString]

theorem get?_cons_of_ne (h : k ≠ ofString name) : get? ((k, v) :: entries) name = get? entries name := by
  have hkey : ∀ s, k = text s → s ≠ Text.pointsOf name := by
    rintro s rfl rfl
    exact h rfl
  cases k <;> simp_all [get?]

theorem mem_of_get?_eq_some : ∀ {entries : List (Value × Value)}, get? entries name = some v →
    (ofString name, v) ∈ entries
  | (k, w) :: entries, h => by
    by_cases hk : k = ofString name
    · subst hk
      rw [get?_cons_self] at h
      cases h
      exact List.mem_cons_self
    · rw [get?_cons_of_ne hk] at h
      exact List.mem_cons_of_mem _ (mem_of_get?_eq_some h)

theorem exists_get?_of_mem : ∀ {entries : List (Value × Value)}, (ofString name, v) ∈ entries →
    ∃ w, get? entries name = some w
  | (k, w) :: entries, h => by
    by_cases hk : k = ofString name
    · subst hk
      exact ⟨w, get?_cons_self⟩
    · rw [get?_cons_of_ne hk]
      rcases List.mem_cons.mp h with h | h
      · cases h
        exact absurd rfl hk
      · exact exists_get?_of_mem h

/-- Entries with at most one value for a key give that value, wherever it stands. -/
theorem get?_eq_some_iff (h : IsFunctional entries name) :
    get? entries name = some v ↔ (ofString name, v) ∈ entries := by
  constructor
  · exact mem_of_get?_eq_some
  · intro hv
    obtain ⟨w, hw⟩ := exists_get?_of_mem hv
    rw [hw, h v w hv (mem_of_get?_eq_some hw)]

end Value

/-! ## Documents of the same parts -/

namespace Document

variable {room : Room} {d d' : Document}

theorem resolve_congr (h : d'.parts = d.parts) (v : Value) : d'.resolve v = d.resolve v := by
  cases v <;> simp only [resolve, partAt, h]

theorem shownAt_congr (h : d'.parts = d.parts) : ∀ levels : Nat, d'.shownAt levels = d.shownAt levels
  | 0 => rfl
  | levels + 1 => by
    funext within v
    simp only [shownAt, resolve_congr h, shownAt_congr h levels]

theorem plain_congr (h : d'.parts = d.parts) (levels : Nat) (v : Value) : d'.plain levels v = d.plain levels v := by
  cases v <;> simp only [plain, shownAt_congr h]

theorem strings_congr (h : d'.parts = d.parts) (key : String) (v : Value) :
    strings room d' key v = strings room d key v := by
  simp only [strings, resolve_congr h, plain_congr h]

theorem unexpected_congr (h : d'.parts = d.parts) (key : String) (expected : Expected) (v : Value) :
    unexpected room d' key expected v = unexpected room d key expected v := by
  simp only [unexpected, shownAt_congr h]

end Document

/-! ## What a mapping gives -/

namespace Settings

open Document

variable {room : Room} {d d' : Document} {entries entries' : List (Value × Value)}

/-- What is read of a mapping depends on the values of the keys of settings alone. -/
theorem ofEntries_congr (hparts : d'.parts = d.parts)
    (h : ∀ key ∈ keys, Value.get? entries' key.name = Value.get? entries key.name) :
    ofEntries room d' entries' = ofEntries room d entries := by
  simp only [keys, List.forall_mem_cons] at h
  obtain ⟨h₁, h₂, h₃, h₄, h₅, h₆, -⟩ := h
  have hstring : ∀ key v, string room d' key v = string room d key v := by
    intro key v
    cases v <;> simp only [string, unexpected_congr hparts]
  have hwhole : ∀ key v, whole room d' key v = whole room d key v := by
    intro key v
    cases v <;> simp only [whole, unexpected_congr hparts]
  have htruth : ∀ key v, truth room d' key v = truth room d key v := by
    intro key v
    cases v <;> simp only [truth, unexpected_congr hparts]
  simp only [ofEntries, field, h₁, h₂, h₃, h₄, h₅, h₆, strings_congr hparts, hstring, hwhole, htruth]

/-- Settings written out as a mapping. -/
def document (s : Settings) : Document where
  value := .map [(.ofString "directories", .list (s.selection.directories.map .text)),
    (.ofString "extensions", .list (s.selection.extensions.map .text)),
    (.ofString "skip_patterns", .list (s.selection.skipPatterns.map .text)),
    (.ofString "strategy", .text s.spacing.strategy), (.ofString "max_passes", .int s.spacing.maxPasses),
    (.ofString "char_class_guard", .bool s.spacing.classGuard)]

theorem texts_list_text (texts : List (List Text.CodePoint)) : Texts room d (.list (texts.map .text)) texts :=
  .list rfl (List.forall₂_map_left_iff.mpr (List.forall₂_same.mpr fun _ _ => rfl))

theorem ofDocument_document (s : Settings) : ofDocument room s.document = .ok s := by
  rw [ofDocument_eq_ofEntries rfl, ofEntries_eq_ok_iff]
  exact ⟨.present rfl (texts_list_text _), .present rfl (texts_list_text _), .present rfl (texts_list_text _),
    .present rfl rfl, .present rfl rfl, .present rfl rfl⟩

/-- **Settings of a mapping.** A mapping holds no settings exactly if the value of a key does not do. Then the fault at
the first such key is reported, which names the key unless something cannot be shown, because it holds a whole number of
too many digits or is too deep. Otherwise every field is that of its own key. A mapping with the same values for the
keys of settings, in whatever order and among whatever others, is read in the same way, and settings that are written
out are read back. -/
theorem ofDocument_mapping (h : d.resolve d.value = .map entries) :
    ((∃ e, ofDocument room d = .error e) ↔
      ∃ key ∈ keys, ∃ v, Value.get? entries key.name = some v ∧ Misfits room d key.shape v) ∧
    (∀ e, ofDocument room d = .error e ↔ FirstFault room d entries keys e) ∧
    (∀ key v e, Document.Fault room d key v e →
      (∃ e', e = .unshowable e' ∧ Explains room d v e') ∨
        ∃ rest, e.message = "Config key " ++ Text.quotedString key.name ++ rest) ∧
    (∀ s, ofDocument room d = .ok s ↔ ComeFrom room d entries s) ∧
    (∀ d' entries', d'.parts = d.parts → d'.resolve d'.value = .map entries' →
      (∀ key ∈ keys, Value.IsFunctional entries key.name) →
      (∀ key ∈ keys, ∀ v, (.ofString key.name, v) ∈ entries' ↔ (.ofString key.name, v) ∈ entries) →
        ofDocument room d' = ofDocument room d) ∧
    ∀ s, ofDocument room s.document = .ok s := by
  rw [ofDocument_eq_ofEntries h]
  refine ⟨?_, ofEntries_eq_error_iff, fun _ _ _ hfault => hfault.names, fun s => ofEntries_eq_ok_iff, ?_,
    ofDocument_document⟩
  · simp only [ofEntries_eq_error_iff, exists_firstFault_iff, FaultAt, ← exists_fault_iff]
    refine exists_congr fun key => and_congr_right fun _ => ⟨?_, ?_⟩
    · rintro ⟨e, v, hv, hfault⟩
      exact ⟨v, hv, e, hfault⟩
    · rintro ⟨v, hv, e, hfault⟩
      exact ⟨e, v, hv, hfault⟩
  · intro d' entries' hparts h' hfunctional hmem
    rw [ofDocument_eq_ofEntries h']
    refine ofEntries_congr hparts fun key hkey => Option.ext fun v => ?_
    have hfunctional' : Value.IsFunctional entries' key.name := fun v w hv hw =>
      hfunctional key hkey v w ((hmem key hkey v).mp hv) ((hmem key hkey w).mp hw)
    rw [Value.get?_eq_some_iff hfunctional', Value.get?_eq_some_iff (hfunctional key hkey)]
    exact hmem key hkey v

theorem ofDocument_mapping_strategy :
    Document.resolve ⟨.map [(.ofString "max_passes", .bool true), (.ofString "strategy", .list [.null])], #[]⟩
      (.map [(.ofString "max_passes", .bool true), (.ofString "strategy", .list [.null])]) =
        .map [(.ofString "max_passes", .bool true), (.ofString "strategy", .list [.null])] ∧
    Document.FirstFault ⟨3, 2⟩
      ⟨.map [(.ofString "max_passes", .bool true), (.ofString "strategy", .list [.null])], #[]⟩
      [(.ofString "max_passes", .bool true), (.ofString "strategy", .list [.null])] keys
        (.unexpected "strategy" .text "[None]") :=
  ⟨rfl, ((ofDocument_mapping rfl).2.1 _).mp rfl⟩

/-! ## Values that keep settings from being read -/

/-- Lists in one another, so many levels deep. -/
def nested : Nat → Value
  | 0 => .null
  | n + 1 => .list [nested n]

theorem shownAt_nested (within : List Nat) : ∀ levels : Nat, d.shownAt levels within (nested levels) = .error .tooDeep
  | 0 => rfl
  | levels + 1 => by
    rw [nested, shownAt_succ rfl]
    show [nested levels].mapM (d.shownAt levels within) >>= _ = _
    rw [List.mapM_cons, shownAt_nested within levels]
    rfl

/-- What cannot be shown is reported without its key, also where it would do. -/
theorem ofDocument_overlong :
    (∀ single item : Nat, ofDocument ⟨single + 1, item⟩ ⟨.map [(.ofString "strategy", .int (10 ^ 4300))], #[]⟩ =
      .error (.unshowable .tooManyDigits)) ∧
    (∀ room : Room, ofDocument room ⟨.map [(.ofString "directories", .list [nested room.item])], #[]⟩ =
      .error (.unshowable .tooDeep)) ∧
    ∀ e name rest, (SettingsError.unshowable e).message ≠ "Config key " ++ Text.quotedString name ++ rest := by
  refine ⟨fun single item => ?_, fun room => ?_, fun e name rest hmessage => ?_⟩
  · have hover : Text.IsOverlong (10 ^ 4300) := Text.isOverlong_pow (by decide)
    rw [ofDocument_eq_ofEntries rfl, ofEntries_eq_error_iff]
    refine ⟨keys.take 3, ⟨"strategy", .single .text⟩, keys.drop 4, rfl, ?_, _, rfl, .unshown ?_ ?_⟩
    · rintro other hother e ⟨v, hv, -⟩
      simp only [keys, List.take_succ_cons, List.take_zero, List.mem_cons, List.not_mem_nil, or_false] at hother
      rcases hother with rfl | rfl | rfl <;> cases hv
    · rintro ⟨s, ⟨⟩⟩
    · rw [shownAt_succ rfl]
      exact bind_eq_error_iff.mpr (Or.inl (Value.frame_eq_error_iff.mpr (Or.inl ⟨_, rfl, hover, rfl⟩)))
  · have hplain : ¬IsPlain (nested room.item) := by
      cases room.item <;> (rw [nested]; intro h; cases h)
    rw [ofDocument_eq_ofEntries rfl, ofEntries_eq_error_iff]
    exact ⟨[], _, _, rfl, List.forall_mem_nil _, _, rfl, .textless ⟨[], _, [], rfl, List.forall_mem_nil _,
      plain_eq_error_iff.mpr ⟨hplain, shownAt_nested [] room.item⟩⟩⟩
  · -- The two texts differ in their first characters.
    cases e with
    | tooManyDigits =>
      unfold SettingsError.message ShowError.message Text.tooManyDigitsMessage at hmessage
      generalize toString Text.digitLimit = limit at hmessage
      have hfirst := congrArg (fun s => s.toList.head?) hmessage
      simp at hfirst
    | tooDeep =>
      have hfirst := congrArg (fun s => s.toList.head?) hmessage
      simp [SettingsError.message, ShowError.message] at hfirst

end Settings

end BracketSpacing
