import BracketSpacing.Proofs.Visits

/-!
# New files and directories

* `FileTree.state?`: what is at names: nothing, a directory, or a file with its bytes.
* `FileTree.Grows`: files and directories stay, if not the bytes of files. A route that leads somewhere leads there in
  the grown tree, too (`Grows.locate`).
* `FileTree.Makes`: one file or directory is made where nothing is. That is all that `addFile` and `addDirectory` do at
  an entry that is missing in a directory (`makes_addFile`, `makes_addDirectory`).
* `FileTree.Paves`: directories are made on the way to a path, and nothing else. So does `makeDirectories`, also if it
  does not come to its end (`paves_makeDirectories`).
* `FileTree.Writes`: bytes are put where a route leads. So does `write` (`writes_of_write`).
-/

namespace BracketSpacing

/-! ## Entries -/

theorem findEntry_alterEntry (name other : String) (f : Option Node → Node) (entries : List (String × Node)) :
    findEntry other (alterEntry name f entries) =
      if other = name then some (f (findEntry name entries)) else findEntry other entries := by
  induction entries with
  | nil =>
    by_cases h : other = name
    · simp [alterEntry, findEntry, h]
    · simp [alterEntry, findEntry, h, Ne.symm h]
  | cons entry entries ih =>
    obtain ⟨n, node⟩ := entry
    by_cases hn : n = name
    · subst hn
      by_cases h : other = n
      · simp [alterEntry, findEntry, h]
      · simp [alterEntry, findEntry, h, Ne.symm h]
    · by_cases h : other = name
      · subst h
        simpa [alterEntry, findEntry, hn] using ih
      · simp only [alterEntry, findEntry, hn, if_false, ih, h]

namespace Node

/-- The bytes of a file. A directory has none. -/
def content? : Node → Option (List UInt8)
  | file content => some content
  | directory _ => none

/-- What is new at the given names is all that is new, if that is a missing entry of a directory. -/
theorem state_add {new : Node} (hnew : ∀ name rest, new.get? (name :: rest) = none) {name : String}
    {entries : List (String × Node)} (hmissing : findEntry name entries = none) (dir : List String) :
    ∀ node : Node, node.get? dir = some (directory entries) → ∀ other,
      ((add new (dir ++ [name]) node).get? other).map content? =
        if other = dir ++ [name] then some new.content? else (node.get? other).map content? := by
  induction dir with
  | nil =>
    intro node hdir other
    rw [get?] at hdir
    cases hdir
    cases other with
    | nil => rfl
    | cons n rest =>
      simp only [List.nil_append, add, get?, findEntry_alterEntry, List.cons.injEq]
      by_cases hn : n = name
      · subst hn
        cases rest with
        | nil => simp [get?]
        | cons m rest => simp [hnew, hmissing]
      · simp [hn]
  | cons d dir ih =>
    intro node hdir other
    cases node with
    | file content => cases hdir
    | directory below =>
      rw [get?, Option.bind_eq_some_iff] at hdir
      obtain ⟨sub, hfind, hsub⟩ := hdir
      cases other with
      | nil => rfl
      | cons n rest =>
        simp only [List.cons_append, add, get?, findEntry_alterEntry, List.cons.injEq]
        by_cases hn : n = d
        · subst hn
          simpa [hfind] using ih sub hsub rest
        · simp [hn]

end Node

namespace FileTree

variable {t t' t'' : FileTree} {r : Route} {p q : Path} {names dir : List String} {content : Option (List UInt8)}
  {bytes : List UInt8} {entries : List (String × Node)} {name : String}

/-! ## What is at names -/

/-- What is at the given names: nothing, a directory, or a file with its bytes. -/
def state? (t : FileTree) (names : List String) : Option (Option (List UInt8)) :=
  (t.get? names).map Node.content?

theorem state?_eq_directory_iff : t.state? names = some none ↔ ∃ entries, t.get? names = some (.directory entries) := by
  rw [state?]
  rcases t.get? names with _ | ⟨old⟩ | ⟨entries⟩ <;> simp [Node.content?]

theorem state?_eq_file_iff : t.state? names = some (some bytes) ↔ t.get? names = some (.file bytes) := by
  rw [state?]
  rcases t.get? names with _ | ⟨old⟩ | ⟨entries⟩ <;> simp [Node.content?]

theorem state?_append_singleton (h : t.get? dir = some (.directory entries)) :
    t.state? (dir ++ [name]) = (findEntry name entries).map Node.content? := by
  rw [state?, get?_append, h, Option.bind_some, Node.get?]
  cases findEntry name entries <;> rfl

theorem isSome_findEntry_iff (h : t.get? dir = some (.directory entries)) :
    (findEntry name entries).isSome = true ↔ t.state? (dir ++ [name]) ≠ none := by
  rw [state?_append_singleton h]
  cases findEntry name entries <;> simp

/-- Other bytes for a file change nothing else. -/
theorem state?_setFile (h : t.get? names = some (.file bytes)) (new : List UInt8) (other : List String) :
    (t.setFile names new).state? other = if other = names then some (some new) else t.state? other := by
  rw [setFile_eq_mapFiles, state?, get?_mapFiles, state?]
  by_cases hother : other = names
  · subst hother
    simp [h, Node.mapFiles, Node.content?]
  · rcases t.get? other with _ | ⟨old⟩ | ⟨entries⟩ <;> simp [Node.mapFiles, Node.content?, hother]

/-! ## Trees that grow -/

/-- All files and directories stay, if not the bytes of the files. -/
structure Grows (t t' : FileTree) : Prop where
  here_eq : t'.here = t.here
  directory : ∀ names, t.state? names = some none → t'.state? names = some none
  file : ∀ names bytes, t.state? names = some (some bytes) → ∃ new, t'.state? names = some (some new)

namespace Grows

theorem refl (t : FileTree) : t.Grows t :=
  ⟨rfl, fun _ h => h, fun _ bytes h => ⟨bytes, h⟩⟩

theorem trans (h : t.Grows t') (h' : t'.Grows t'') : t.Grows t'' where
  here_eq := h'.here_eq.trans h.here_eq
  directory := fun names hnames => h'.directory names (h.directory names hnames)
  file := fun names bytes hnames => by
    obtain ⟨new, hnew⟩ := h.file names bytes hnames
    exact h'.file names new hnew

/-- What is there stays there. -/
theorem state?_ne_none (h : t.Grows t') (hnames : t.state? names ≠ none) : t'.state? names ≠ none := by
  rcases hstate : t.state? names with _ | _ | bytes
  · exact absurd hstate hnames
  · simp [h.directory names hstate]
  · obtain ⟨new, hnew⟩ := h.file names bytes hstate
    simp [hnew]

theorem exists_entries (h : t.Grows t') (hdir : t.get? dir = some (.directory entries)) :
    ∃ entries', t'.get? dir = some (.directory entries') :=
  state?_eq_directory_iff.mp (h.directory dir (state?_eq_directory_iff.mpr ⟨entries, hdir⟩))

/-- Steps that lead somewhere lead there in the grown tree. -/
theorem follow (h : t.Grows t') (steps : List Step) : ∀ start : List String,
    t.follow start steps = .ok names → t'.follow start steps = .ok names := by
  induction steps with
  | nil =>
    intro start hfollow
    exact hfollow
  | cons step steps ih =>
    intro start hfollow
    rw [FileTree.follow] at hfollow
    rcases hget : t.get? start with _ | ⟨old⟩ | ⟨entries⟩
    · simp [hget] at hfollow
    · simp [hget] at hfollow
    · simp only [hget] at hfollow
      obtain ⟨entries', hget'⟩ := h.exists_entries hget
      rw [FileTree.follow, hget']
      cases step with
      | stay => exact ih start hfollow
      | up => exact ih start.dropLast hfollow
      | into name =>
        simp only at hfollow ⊢
        by_cases hfind : (findEntry name entries).isSome = true
        · rw [if_pos hfind] at hfollow
          have hthere : t'.state? (start ++ [name]) ≠ none := h.state?_ne_none ((isSome_findEntry_iff hget).mp hfind)
          rw [if_pos ((isSome_findEntry_iff hget').mpr hthere)]
          exact ih (start ++ [name]) hfollow
        · rw [if_neg hfind] at hfollow
          split at hfollow <;> cases hfollow

theorem locate (h : t.Grows t') (hlocate : t.locate r = .ok names) : t'.locate r = .ok names := by
  unfold FileTree.locate at hlocate ⊢
  split at hlocate
  · cases hlocate
  · rename_i hsize
    rw [if_neg hsize, h.here_eq]
    exact h.follow r.steps _ hlocate

end Grows

/-- Files and directories stay when there are other bytes in a file. -/
theorem grows_setFile (h : t.get? names = some (.file bytes)) (new : List UInt8) : t.Grows (t.setFile names new) := by
  refine ⟨by rw [setFile_eq_mapFiles, here_mapFiles], ?_, ?_⟩
  · intro other hdirectory
    rw [state?_setFile h, if_neg, hdirectory]
    rintro rfl
    rw [state?_eq_file_iff.mpr h] at hdirectory
    cases hdirectory
  · intro other old hfile
    rw [state?_setFile h]
    split
    · exact ⟨new, rfl⟩
    · exact ⟨old, hfile⟩

/-! ## One new file or directory -/

/-- A file with these bytes or an empty directory is made where nothing is. -/
structure Makes (t t' : FileTree) (names : List String) (content : Option (List UInt8)) : Prop where
  here_eq : t'.here = t.here
  missing : t.state? names = none
  state_eq : ∀ other, t'.state? other = if other = names then some content else t.state? other

namespace Makes

theorem grows (h : t.Makes t' names content) : t.Grows t' := by
  have hother : ∀ other, t.state? other ≠ none → t'.state? other = t.state? other := by
    intro other hthere
    rw [h.state_eq, if_neg]
    rintro rfl
    exact hthere h.missing
  refine ⟨h.here_eq, ?_, ?_⟩
  · intro other hdirectory
    rw [hother other (by simp [hdirectory]), hdirectory]
  · intro other bytes hfile
    exact ⟨bytes, by rw [hother other (by simp [hfile]), hfile]⟩

theorem made (h : t.Makes t' names content) : t'.state? names = some content := by
  rw [h.state_eq, if_pos rfl]

theorem eq_of_ne (h : t.Makes t' names content) {other : List String} (hother : t'.state? other ≠ t.state? other) :
    other = names := by
  by_contra hne
  exact hother (by rw [h.state_eq, if_neg hne])

end Makes

/-- What is added has its place in the tree, or the tree stays as it is. -/
theorem add_eq (t : FileTree) (hne : names ≠ []) (new : Node) (hnew : new.valid = true) :
    t.add names new hnew = t ∨
      (t.add names new hnew).here = t.here ∧ (t.add names new hnew).root = Node.add new names t.root := by
  cases names with
  | nil => exact absurd rfl hne
  | cons name names =>
    rw [add]
    split
    · exact Or.inr ⟨rfl, rfl⟩
    · exact Or.inl rfl

theorem add_eq_or_makes (hdir : t.get? dir = some (.directory entries)) (hmissing : findEntry name entries = none)
    {new : Node} (hnew : new.valid = true) (hempty : ∀ name rest, new.get? (name :: rest) = none) :
    t.add (dir ++ [name]) new hnew = t ∨
      t.Makes (t.add (dir ++ [name]) new hnew) (dir ++ [name]) new.content? := by
  obtain hsame | ⟨hhere, hroot⟩ := t.add_eq (List.append_ne_nil_of_right_ne_nil dir (List.cons_ne_nil name [])) new hnew
  · exact Or.inl hsame
  · refine Or.inr ⟨hhere, ?_, ?_⟩
    · rw [state?_append_singleton hdir, hmissing]
      rfl
    · intro other
      rw [state?, get?, hroot]
      exact Node.state_add hempty hmissing dir t.root hdir other

/-! ## Missing entries -/

/-- The last step of a route is to an entry that is missing in a directory. -/
theorem exists_of_missingAt? (h : t.missingAt? r = some names) : ∃ dir name entries, names = dir ++ [name] ∧
    r.steps = r.init.steps ++ [.into name] ∧ t.locate r.init = .ok dir ∧ t.get? dir = some (.directory entries) ∧
    findEntry name entries = none := by
  rw [missingAt?] at h
  split at h
  · rename_i dir name hdir hlast
    split at h
    · rename_i entries hget
      split at h
      · rename_i hmissing
        cases h
        have hsteps := (List.dropLast_append_getLast? (Step.into name) hlast).symm
        exact ⟨dir, name, entries, rfl, hsteps, hdir, hget, Option.isNone_iff_eq_none.mp hmissing⟩
      · cases h
    · cases h
  · cases h

/-- When something is there, the route leads to it. -/
theorem locate_of_missingAt? (h : t.missingAt? r = some names) (hgrows : t.Grows t')
    (hmade : t'.state? names ≠ none) : t'.locate r = .ok names := by
  obtain ⟨dir, name, entries, rfl, hsteps, hdir, hget, -⟩ := exists_of_missingAt? h
  have hdir' := hgrows.locate hdir
  obtain ⟨entries', hget'⟩ := hgrows.exists_entries hget
  have hfind : (findEntry name entries').isSome = true := (isSome_findEntry_iff hget').mpr hmade
  unfold locate at hdir' ⊢
  split at hdir'
  · cases hdir'
  · rename_i hsize
    have hinit : t'.follow (if r.fromTop then [] else t'.here) r.init.steps = .ok dir := hdir'
    rw [if_neg (show ¬Route.sizeLimit ≤ r.size from hsize), hsteps, follow_append, hinit]
    simp only [follow, hget', hfind, if_true]

theorem makes_addFile (h : t.missingAt? r = some names) (bytes : List UInt8) :
    t.addFile names bytes = t ∨ t.Makes (t.addFile names bytes) names (some bytes) := by
  obtain ⟨dir, name, entries, rfl, -, -, hget, hmissing⟩ := exists_of_missingAt? h
  exact add_eq_or_makes hget hmissing rfl fun _ _ => rfl

theorem makes_addDirectory (h : t.missingAt? r = some names) :
    t.addDirectory names = t ∨ t.Makes (t.addDirectory names) names none := by
  obtain ⟨dir, name, entries, rfl, -, -, hget, hmissing⟩ := exists_of_missingAt? h
  unfold addDirectory
  split
  · exact Or.inl rfl
  · exact add_eq_or_makes hget hmissing rfl fun _ _ => rfl

/-! ## Directories on the way to a path -/

end FileTree

/-- Whether a path is on the way to another, or the same: it has the same anchor and the first of its components. -/
def Path.IsOnWayTo (q p : Path) : Prop :=
  q.anchor = p.anchor ∧ q.parts <+: p.parts

theorem Path.IsOnWayTo.of_parent {p q : Path} (h : q.IsOnWayTo p.parent) : q.IsOnWayTo p :=
  ⟨h.1, h.2.trans (List.dropLast_prefix p.parts)⟩

namespace FileTree

variable {t t' t'' : FileTree} {r : Route} {p q : Path} {names : List String} {bytes : List UInt8}

/-- Directories are made on the way to a path, and nothing else changes. -/
structure Paves (t t' : FileTree) (p : Path) : Prop where
  grows : t.Grows t'
  made : ∀ names, t'.state? names ≠ t.state? names → t.state? names = none ∧ t'.state? names = some none ∧
    ∃ q : Path, q.IsOnWayTo p ∧ t'.locate q.route = .ok names

namespace Paves

theorem refl (t : FileTree) (p : Path) : t.Paves t p :=
  ⟨.refl t, fun _ h => absurd rfl h⟩

theorem trans (h : t.Paves t' p) (h' : t'.Paves t'' p) : t.Paves t'' p := by
  refine ⟨h.grows.trans h'.grows, ?_⟩
  intro names hnames
  by_cases hfirst : t'.state? names = t.state? names
  · rw [← hfirst] at hnames ⊢
    exact h'.made names hnames
  · obtain ⟨hmissing, hmade, q, hq, hlocate⟩ := h.made names hfirst
    exact ⟨hmissing, h'.grows.directory names hmade, q, hq, h'.grows.locate hlocate⟩

theorem of_parent (h : t.Paves t' p.parent) : t.Paves t' p := by
  refine ⟨h.grows, ?_⟩
  intro names hnames
  obtain ⟨hmissing, hmade, q, hq, hlocate⟩ := h.made names hnames
  exact ⟨hmissing, hmade, q, hq.of_parent, hlocate⟩

end Paves

theorem paves_of_makeDirectory (h : t.makeDirectory p.route = .ok t') : t.Paves t' p := by
  rw [makeDirectory] at h
  split at h
  · cases h
  · split at h
    · rename_i names hmissing
      cases h
      obtain hsame | hmakes := makes_addDirectory hmissing
      · rw [hsame]
        exact .refl t p
      · refine ⟨hmakes.grows, ?_⟩
        intro other hother
        obtain rfl := hmakes.eq_of_ne hother
        have hlocate := locate_of_missingAt? hmissing hmakes.grows (by simp [hmakes.made])
        exact ⟨hmakes.missing, hmakes.made, p, ⟨rfl, List.prefix_rfl⟩, hlocate⟩
    · cases h
  · cases h

/-- All that is made is on the way to the path, however far this gets. -/
theorem paves_makeDirectories (t : FileTree) (p : Path) : t.Paves (t.makeDirectories p).1 p := by
  fun_induction makeDirectories t p with
  | case1 p t' hmake => exact paves_of_makeDirectory hmake
  | case2 p hmake hparts => exact .refl t p
  | case3 p hmake hparts t' e hparent ih =>
    rw [hparent] at ih
    exact ih.of_parent
  | case4 p hmake hparts t' hparent t'' hagain ih =>
    rw [hparent] at ih
    exact ih.of_parent.trans (paves_of_makeDirectory hagain)
  | case5 p hmake hparts t' hparent hagain ih =>
    rw [hparent] at ih
    exact ih.of_parent
  | case6 p hmake hparts t' hparent e hne hagain ih =>
    rw [hparent] at ih
    exact ih.of_parent
  | case7 p e hne hmake => exact .refl t p

example : ((FileTree.empty []).makeDirectories (.ofString "a/b")).1.state? ["a", "b"] = some none := by cbv

/-! ## Bytes where a route leads -/

/-- The bytes are put in a file where the route leads, and nothing else changes. -/
structure Writes (t t' : FileTree) (r : Route) (bytes : List UInt8) : Prop where
  grows : t.Grows t'
  written : ∀ names, t'.state? names ≠ t.state? names → t.state? names ≠ some none ∧
    t'.state? names = some (some bytes) ∧ t'.locate r = .ok names

/-- A route that leads to a file leads to its names. -/
theorem locate_of_fileAt (h : t.fileAt r = .ok (names, bytes)) :
    t.locate r = .ok names ∧ t.get? names = some (.file bytes) := by
  rw [fileAt] at h
  split at h
  · cases h
  · rename_i found hlocate
    split at h
    · rename_i content hget
      cases h
      exact ⟨hlocate, hget⟩
    · cases h
    · cases h

theorem writes_of_write (h : t.write r bytes = .ok t') : t.Writes t' r bytes := by
  rw [write] at h
  split at h
  · rename_i names old hfile
    cases h
    obtain ⟨hlocate, hget⟩ := locate_of_fileAt hfile
    have hgrows : t.Grows (t.setFile names bytes) := grows_setFile hget bytes
    refine ⟨hgrows, ?_⟩
    intro other hother
    rw [state?_setFile hget] at hother ⊢
    by_cases hnames : other = names
    · subst hnames
      exact ⟨by simp [state?_eq_file_iff.mpr hget], if_pos rfl, hgrows.locate hlocate⟩
    · rw [if_neg hnames] at hother
      exact absurd rfl hother
  · split at h
    · rename_i names hmissing
      cases h
      obtain hsame | hmakes := makes_addFile hmissing bytes
      · rw [hsame]
        exact ⟨.refl t, fun _ hne => absurd rfl hne⟩
      · refine ⟨hmakes.grows, ?_⟩
        intro other hother
        obtain rfl := hmakes.eq_of_ne hother
        have hlocate := locate_of_missingAt? hmissing hmakes.grows (by simp [hmakes.made])
        exact ⟨by simp [hmakes.missing], hmakes.made, hlocate⟩
    · cases h
  · cases h

end FileTree

end BracketSpacing
