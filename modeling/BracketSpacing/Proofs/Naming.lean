import Mathlib
import BracketSpacing.Path

/-!
# Paths and their texts

* `Path.IsProper`: no component is empty, a single dot, or holds a slash. The path of a text is proper
  (`isProper_ofString`).
* A proper path is told by its text (`ofString_text`): it names no other path.
-/

namespace BracketSpacing

variable {s rest : List Char} {parts : List (List Char)}

/-! ## Texts between slashes -/

theorem exists_splitSlashes (s : List Char) : ∃ part parts, splitSlashes s = part :: parts := by
  cases s with
  | nil => exact ⟨_, _, rfl⟩
  | cons c s =>
    rw [splitSlashes]
    split
    · split_ifs
      · exact ⟨_, _, rfl⟩
      · exact ⟨_, _, rfl⟩
    · exact ⟨_, _, rfl⟩

theorem splitSlashes_slash (s : List Char) : splitSlashes ('/' :: s) = [] :: splitSlashes s := by
  obtain ⟨part, parts, h⟩ := exists_splitSlashes s
  rw [splitSlashes, h]
  rfl

theorem splitSlashes_cons_of_ne {c : Char} (hc : c ≠ '/') {part : List Char} (h : splitSlashes s = part :: parts) :
    splitSlashes (c :: s) = (c :: part) :: parts := by
  rw [splitSlashes, h]
  exact if_neg hc

theorem splitSlashes_append : ∀ {s : List Char}, '/' ∉ s → ∀ rest,
    splitSlashes (s ++ '/' :: rest) = s :: splitSlashes rest
  | [], _, rest => splitSlashes_slash rest
  | c :: s, h, rest => by
    rw [List.mem_cons, not_or] at h
    rw [List.cons_append, splitSlashes_cons_of_ne (Ne.symm h.1) (splitSlashes_append h.2 rest)]

theorem splitSlashes_of_not_mem : ∀ {s : List Char}, '/' ∉ s → splitSlashes s = [s]
  | [], _ => rfl
  | c :: s, h => by
    rw [List.mem_cons, not_or] at h
    rw [splitSlashes_cons_of_ne (Ne.symm h.1) (splitSlashes_of_not_mem h.2)]

/-- Texts without slashes are what a text splits into in which a slash stands between any two of them. -/
theorem splitSlashes_intercalate : ∀ {parts : List (List Char)}, parts ≠ [] → (∀ part ∈ parts, '/' ∉ part) →
    splitSlashes (['/'].intercalate parts) = parts
  | [], h, _ => absurd rfl h
  | [part], _, h => by
    rw [List.intercalate_singleton, splitSlashes_of_not_mem (h part List.mem_cons_self)]
  | part :: next :: parts, _, h => by
    rw [List.intercalate_cons_cons, List.append_assoc, List.singleton_append,
      splitSlashes_append (h part List.mem_cons_self),
      splitSlashes_intercalate (List.cons_ne_nil next parts) fun p hp => h p (List.mem_cons_of_mem part hp)]

theorem not_mem_of_mem_splitSlashes : ∀ {s part : List Char}, part ∈ splitSlashes s → '/' ∉ part
  | [], part, h => by
    rw [List.mem_singleton.mp h]
    exact List.not_mem_nil
  | c :: s, part, h => by
    by_cases hc : c = '/'
    · subst hc
      rw [splitSlashes_slash] at h
      rcases List.mem_cons.mp h with rfl | h
      · exact List.not_mem_nil
      · exact not_mem_of_mem_splitSlashes h
    · obtain ⟨first, others, hs⟩ := exists_splitSlashes s
      have ih : ∀ p ∈ first :: others, '/' ∉ p := fun p hp => not_mem_of_mem_splitSlashes (hs ▸ hp)
      rw [splitSlashes_cons_of_ne hc hs] at h
      rcases List.mem_cons.mp h with rfl | h
      · rw [List.mem_cons, not_or]
        exact ⟨Ne.symm hc, ih first List.mem_cons_self⟩
      · exact ih part (List.mem_cons_of_mem first h)

/-! ## Proper paths -/

namespace Path

/-- Whether a text is a component: it is not empty, no single dot, and holds no slash. -/
def IsComponent (part : String) : Prop :=
  part ≠ "" ∧ part ≠ "." ∧ '/' ∉ part.toList

/-- Whether all components are such. -/
def IsProper (p : Path) : Prop :=
  ∀ part ∈ p.parts, IsComponent part

theorem isProper_ofString (s : String) : (ofString s).IsProper := by
  intro part hpart
  have h : part ∈ partsOf s := hpart
  simp only [partsOf, List.mem_filter, List.mem_map, Bool.and_eq_true, bne_iff_ne] at h
  obtain ⟨⟨chars, hchars, rfl⟩, hne, hdot⟩ := h
  refine ⟨hne, hdot, ?_⟩
  rw [String.toList_ofList]
  exact not_mem_of_mem_splitSlashes hchars

theorem IsProper.append {p : Path} (h : p.IsProper) {parts : List String} (hparts : ∀ part ∈ parts, IsComponent part) :
    (p.append parts).IsProper := by
  intro part hpart
  rcases List.mem_append.mp hpart with hp | hp
  · exact h part hp
  · exact hparts part hp

/-- The text of components, with a slash between any two of them. -/
theorem toList_intercalate_slash (parts : List String) :
    ("/".intercalate parts).toList = ['/'].intercalate (parts.map String.toList) :=
  String.toList_intercalate

theorem toList_slash (s : String) : ("/" ++ s).toList = '/' :: s.toList := by
  rw [String.toList_append]
  rfl

theorem partsOf_slash (s : String) : partsOf ("/" ++ s) = partsOf s := by
  rw [partsOf, partsOf, toList_slash, splitSlashes_slash, List.map_cons, List.filter_cons]
  rfl

/-- Components are what their text consists of. -/
theorem partsOf_intercalate {parts : List String} (h : ∀ part ∈ parts, IsComponent part) :
    partsOf ("/".intercalate parts) = parts := by
  have hkept : (parts.filter fun part => part != "" && part != ".") = parts :=
    List.filter_eq_self.mpr fun part hpart => by simp [(h part hpart).1, (h part hpart).2.1]
  cases parts with
  | nil => rfl
  | cons first others =>
    have hslash : ∀ chars ∈ (first :: others).map String.toList, '/' ∉ chars := by
      intro chars hchars
      obtain ⟨part, hpart, rfl⟩ := List.mem_map.mp hchars
      exact (h part hpart).2.2
    have hne : (first :: others).map String.toList ≠ [] := List.cons_ne_nil _ _
    have hmap : ((first :: others).map String.toList).map String.ofList = first :: others := by simp
    rw [partsOf, toList_intercalate_slash, splitSlashes_intercalate hne hslash, hmap, hkept]

/-- No component starts with a slash. -/
theorem takeWhile_intercalate {parts : List String} (h : ∀ part ∈ parts, IsComponent part) :
    ("/".intercalate parts).toList.takeWhile (· == '/') = [] := by
  rw [toList_intercalate_slash]
  cases parts with
  | nil => rfl
  | cons first others =>
    obtain ⟨hne, -, hslash⟩ := h first List.mem_cons_self
    obtain ⟨c, chars, hfirst⟩ := List.exists_cons_of_ne_nil (mt String.toList_eq_nil_iff.mp hne)
    have hc : (c == '/') = false := by
      rw [hfirst, List.mem_cons, not_or] at hslash
      exact beq_eq_false_iff_ne.mpr (Ne.symm hslash.1)
    cases others with
    | nil => rw [List.map_cons, List.map_nil, List.intercalate_singleton, hfirst, List.takeWhile_cons, hc]; rfl
    | cons second others =>
      rw [List.map_cons, List.map_cons, List.intercalate_cons_cons, hfirst, List.append_assoc, List.cons_append,
        List.takeWhile_cons, hc]
      rfl

/-- A proper path is told by its text. -/
theorem ofString_text {p : Path} (h : p.IsProper) : ofString p.text = p := by
  obtain ⟨anchor, parts⟩ := p
  have hparts : partsOf ("/".intercalate parts) = parts := partsOf_intercalate h
  have hstart : ("/".intercalate parts).toList.takeWhile (· == '/') = [] := takeWhile_intercalate h
  cases anchor with
  | relative =>
    cases parts with
    | nil => rfl
    | cons first others =>
      have htext : text ⟨.relative, first :: others⟩ = "/".intercalate (first :: others) := String.empty_append
      rw [ofString, anchorOf, htext, hstart, hparts]
      rfl
  | slash =>
    have htext : text ⟨.slash, parts⟩ = "/" ++ "/".intercalate parts := rfl
    rw [ofString, anchorOf, htext, partsOf_slash, hparts, toList_slash, List.takeWhile_cons, hstart]
    rfl
  | doubleSlash =>
    have htext : text ⟨.doubleSlash, parts⟩ = "/" ++ ("/" ++ "/".intercalate parts) := by
      rw [← String.append_assoc]
      rfl
    rw [ofString, anchorOf, htext, partsOf_slash, partsOf_slash, hparts, toList_slash, toList_slash,
      List.takeWhile_cons, List.takeWhile_cons, hstart]
    rfl

end Path

end BracketSpacing
