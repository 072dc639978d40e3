import Mathlib
import BracketSpacing.Walk

/-!
# Other bytes in the files of a tree

* `FileTree.mapFiles f`: the tree with other bytes in its files, by the names that lead to them. Nothing appears or
  disappears: paths lead to the same names, walks find the same files, and the same directories are missing.
* Putting bytes in one file of such a tree is such a change of the tree again (`setFile_mapFiles`).
* What is at a list of names is what is among the files (`mem_files_iff`), so a change that keeps the bytes of every
  file keeps the tree (`mapFiles_congr`).
-/

namespace BracketSpacing

variable {f g : List String → List UInt8 → List UInt8}

/-! ## Nodes -/

mutual

/-- The node with other bytes in the files at and below it, by the names that lead to them. -/
def Node.mapFiles : (List String → List UInt8 → List UInt8) → Node → Node
  | f, .file content => .file (f [] content)
  | f, .directory entries => .directory (mapEntries f entries)

/-- The same for the entries of a directory. -/
def mapEntries : (List String → List UInt8 → List UInt8) → List (String × Node) → List (String × Node)
  | _, [] => []
  | f, (name, node) :: entries => (name, node.mapFiles fun names => f (name :: names)) :: mapEntries f entries

end

theorem any_mapEntries (name : String) : ∀ (f : List String → List UInt8 → List UInt8) (entries : List (String × Node)),
    (mapEntries f entries).any (·.1 == name) = entries.any (·.1 == name)
  | _, [] => rfl
  | f, (n, node) :: entries => by
    rw [mapEntries, List.any_cons, List.any_cons, any_mapEntries name f entries]

mutual

theorem Node.valid_mapFiles : ∀ (f : List String → List UInt8 → List UInt8) (node : Node),
    (node.mapFiles f).valid = node.valid
  | _, .file _ => rfl
  | f, .directory entries => by
    rw [Node.mapFiles, Node.valid, Node.valid, validEntries_mapEntries f entries]

theorem validEntries_mapEntries : ∀ (f : List String → List UInt8 → List UInt8) (entries : List (String × Node)),
    validEntries (mapEntries f entries) = validEntries entries
  | _, [] => rfl
  | f, (name, node) :: entries => by
    rw [mapEntries, validEntries, validEntries, any_mapEntries, Node.valid_mapFiles _ node,
      validEntries_mapEntries f entries]

end

theorem findEntry_mapEntries (name : String) : ∀ (f : List String → List UInt8 → List UInt8)
    (entries : List (String × Node)), findEntry name (mapEntries f entries) =
      (findEntry name entries).map (Node.mapFiles fun names => f (name :: names))
  | _, [] => rfl
  | f, (n, node) :: entries => by
    rw [mapEntries, findEntry, findEntry, findEntry_mapEntries name f entries]
    split
    · rename_i h
      rw [h]
      rfl
    · rfl

namespace Node

/-- The same names lead to the same files and directories. -/
theorem get?_mapFiles : ∀ (names : List String) (f : List String → List UInt8 → List UInt8) (node : Node),
    (node.mapFiles f).get? names = (node.get? names).map (mapFiles fun rest => f (names ++ rest))
  | [], _, node => by cases node <;> rfl
  | _ :: _, _, .file _ => rfl
  | name :: names, f, .directory entries => by
    rw [mapFiles, get?, get?, findEntry_mapEntries]
    cases findEntry name entries with
    | none => rfl
    | some node => exact get?_mapFiles names _ node

mutual

theorem files_mapFiles : ∀ (f : List String → List UInt8 → List UInt8) (node : Node),
    (node.mapFiles f).files = node.files.map fun (names, content) => (names, f names content)
  | _, .file _ => rfl
  | f, .directory entries => by rw [mapFiles, files, files, entryFiles_mapEntries f entries]

theorem entryFiles_mapEntries : ∀ (f : List String → List UInt8 → List UInt8) (entries : List (String × Node)),
    entryFiles (mapEntries f entries) = (entryFiles entries).map fun (names, content) => (names, f names content)
  | _, [] => rfl
  | f, (name, node) :: entries => by
    rw [mapEntries, entryFiles, entryFiles, files_mapFiles _ node, entryFiles_mapEntries f entries, List.map_append,
      List.map_map, List.map_map]
    rfl

end

mutual

/-- What keeps the bytes of every file keeps the node. -/
theorem mapFiles_congr : ∀ {f g : List String → List UInt8 → List UInt8} (node : Node),
    (∀ x ∈ node.files, f x.1 x.2 = g x.1 x.2) → node.mapFiles f = node.mapFiles g
  | f, g, .file content, h => by
    have hc : f [] content = g [] content := h ([], content) List.mem_cons_self
    rw [mapFiles, mapFiles, hc]
  | f, g, .directory entries, h => by rw [mapFiles, mapFiles, mapEntries_congr entries h]

theorem mapEntries_congr : ∀ {f g : List String → List UInt8 → List UInt8} (entries : List (String × Node)),
    (∀ x ∈ entryFiles entries, f x.1 x.2 = g x.1 x.2) → mapEntries f entries = mapEntries g entries
  | _, _, [], _ => rfl
  | f, g, (name, node) :: entries, h => by
    rw [entryFiles, List.forall_mem_append, List.forall_mem_map] at h
    have hnode : node.mapFiles (fun names => f (name :: names)) = node.mapFiles fun names => g (name :: names) :=
      mapFiles_congr node h.1
    rw [mapEntries, mapEntries, hnode, mapEntries_congr entries h.2]

end

mutual

theorem mapFiles_id : ∀ node : Node, node.mapFiles (fun _ content => content) = node
  | .file _ => rfl
  | .directory entries => by rw [mapFiles, mapEntries_id entries]

theorem mapEntries_id : ∀ entries : List (String × Node), mapEntries (fun _ content => content) entries = entries
  | [] => rfl
  | (name, node) :: entries => by rw [mapEntries, mapFiles_id node, mapEntries_id entries]

end

mutual

/-- Two changes come to one. -/
theorem mapFiles_mapFiles : ∀ (f g : List String → List UInt8 → List UInt8) (node : Node),
    (node.mapFiles f).mapFiles g = node.mapFiles fun names content => g names (f names content)
  | _, _, .file _ => rfl
  | f, g, .directory entries => by rw [mapFiles, mapFiles, mapFiles, mapEntries_mapEntries f g entries]

theorem mapEntries_mapEntries : ∀ (f g : List String → List UInt8 → List UInt8) (entries : List (String × Node)),
    mapEntries g (mapEntries f entries) = mapEntries (fun names content => g names (f names content)) entries
  | _, _, [] => rfl
  | f, g, (name, node) :: entries => by
    rw [mapEntries, mapEntries, mapEntries, mapFiles_mapFiles _ _ node, mapEntries_mapEntries f g entries]

end

/-! ## Files and the names that lead to them -/

theorem nil_not_mem_entryFiles {content : List UInt8} : ∀ {entries : List (String × Node)},
    ([], content) ∉ entryFiles entries
  | [] => List.not_mem_nil
  | (name, node) :: entries => by
    rw [entryFiles, List.mem_append, List.mem_map]
    rintro (⟨x, -, hx⟩ | h)
    · cases hx
    · exact nil_not_mem_entryFiles h

theorem any_of_mem_entryFiles {name : String} {names : List String} {content : List UInt8} :
    ∀ {entries : List (String × Node)}, (name :: names, content) ∈ entryFiles entries →
      entries.any (·.1 == name) = true
  | [], h => by cases h
  | (n, node) :: entries, h => by
    rw [entryFiles, List.mem_append, List.mem_map] at h
    rw [List.any_cons, Bool.or_eq_true]
    rcases h with ⟨x, -, hx⟩ | h
    · cases hx
      exact Or.inl (beq_self_eq_true _)
    · exact Or.inr (any_of_mem_entryFiles h)

/-- The files below an entry are those of its node, for no other entry has its name. -/
theorem mem_entryFiles_iff {name : String} {names : List String} {content : List UInt8} :
    ∀ {entries : List (String × Node)}, validEntries entries = true →
      ((name :: names, content) ∈ entryFiles entries ↔
        ∃ node, findEntry name entries = some node ∧ (names, content) ∈ node.files)
  | [], _ => by simp [entryFiles, findEntry]
  | (n, node) :: entries, h => by
    simp only [validEntries, Bool.and_eq_true, Bool.not_eq_true'] at h
    obtain ⟨⟨⟨-, hother⟩, -⟩, hentries⟩ := h
    rw [entryFiles, List.mem_append, List.mem_map, findEntry]
    by_cases hn : n = name
    · subst hn
      have hrest : (n :: names, content) ∉ entryFiles entries := fun hm => by
        rw [any_of_mem_entryFiles hm] at hother
        cases hother
      simp [hrest]
    · simp [hn, mem_entryFiles_iff hentries]

theorem valid_of_findEntry {name : String} {node : Node} : ∀ {entries : List (String × Node)},
    validEntries entries = true → findEntry name entries = some node → isEntryName name = true ∧ node.valid = true
  | [], _, h => by cases h
  | (n, other) :: entries, hv, h => by
    simp only [validEntries, Bool.and_eq_true] at hv
    rw [findEntry] at h
    split at h
    · rename_i hn
      cases h
      exact ⟨hn ▸ hv.1.1.1, hv.1.2⟩
    · exact valid_of_findEntry hv.2 h

/-- What is among the files is what the names lead to. -/
theorem mem_files_iff {content : List UInt8} : ∀ {names : List String} {node : Node}, node.valid = true →
    ((names, content) ∈ node.files ↔ node.get? names = some (.file content))
  | [], .file _, _ => by simp [files, get?, eq_comm]
  | [], .directory entries, _ => by simp [files, get?, nil_not_mem_entryFiles]
  | _ :: _, .file _, _ => by simp [files, get?]
  | name :: names, .directory entries, h => by
    have hentries : validEntries entries = true := h
    rw [files, mem_entryFiles_iff hentries, get?, Option.bind_eq_some_iff]
    refine exists_congr fun node => and_congr_right fun hfind => ?_
    exact mem_files_iff (valid_of_findEntry hentries hfind).2

/-! ## Other bytes in one file -/

theorem mapEntries_congr_names {entries : List (String × Node)}
    (h : ∀ name, entries.any (·.1 == name) = true →
      ∀ names content, f (name :: names) content = g (name :: names) content) :
    mapEntries f entries = mapEntries g entries := by
  refine mapEntries_congr entries fun x hx => ?_
  obtain ⟨names, content⟩ := x
  cases names with
  | nil => exact absurd hx nil_not_mem_entryFiles
  | cons name names => exact h name (any_of_mem_entryFiles hx) names content

/-- Putting bytes in one file is a change of that file only. -/
theorem setFile_mapFiles (content : List UInt8) : ∀ (names : List String) (f : List String → List UInt8 → List UInt8)
    (node : Node), node.valid = true → (node.mapFiles f).setFile content names =
      node.mapFiles fun other old => if other = names then content else f other old
  | [], _, .file _, _ => rfl
  | [], f, .directory entries, _ => by
    rw [mapFiles, mapFiles, setFile]
    refine congrArg directory (mapEntries_congr_names fun name _ names old => ?_)
    exact (if_neg (List.cons_ne_nil name names)).symm
  | _ :: _, _, .file _, _ => rfl
  | name :: names, f, .directory entries, h => by
    have hentries : validEntries entries = true := h
    rw [mapFiles, mapFiles, setFile]
    refine congrArg directory ?_
    clear h
    induction entries with
    | nil => rfl
    | cons e entries ih =>
      obtain ⟨n, node⟩ := e
      simp only [validEntries, Bool.and_eq_true, Bool.not_eq_true'] at hentries
      obtain ⟨⟨⟨-, hother⟩, hnode⟩, hrest⟩ := hentries
      rw [mapEntries, mapEntries, modifyEntry]
      split
      · rename_i hn
        subst hn
        rw [setFile_mapFiles content names _ node hnode]
        have htail : mapEntries f entries =
            mapEntries (fun other old => if other = n :: names then content else f other old) entries :=
          mapEntries_congr_names fun m hm rest old => by
            have hne : m ≠ n := by
              rintro rfl
              rw [hm] at hother
              cases hother
            rw [if_neg fun he => hne (List.cons.inj he).1]
        rw [← htail]
        simp
      · rename_i hn
        rw [ih hrest]
        have hhead : node.mapFiles (fun rest => f (n :: rest)) =
            node.mapFiles fun rest old => if n :: rest = name :: names then content else f (n :: rest) old :=
          mapFiles_congr node fun x _ => (if_neg fun he => hn (List.cons.inj he).1).symm
        rw [hhead]

end Node

namespace Node

end Node

/-! ## Trees -/

namespace FileTree

variable {t : FileTree}

/-- The tree with other bytes in its files, by the names that lead to them. -/
def mapFiles (f : List String → List UInt8 → List UInt8) (t : FileTree) : FileTree :=
  ⟨mapEntries f t.entries, t.here, by rw [validEntries_mapEntries]; exact t.entries_valid⟩

theorem valid_root (t : FileTree) : t.root.valid = true :=
  t.entries_valid

@[simp] theorem here_mapFiles (f : List String → List UInt8 → List UInt8) (t : FileTree) :
    (t.mapFiles f).here = t.here := rfl

/-- The same names lead to the same files and directories. -/
theorem get?_mapFiles (f : List String → List UInt8 → List UInt8) (t : FileTree) (names : List String) :
    (t.mapFiles f).get? names = (t.get? names).map (Node.mapFiles fun rest => f (names ++ rest)) :=
  Node.get?_mapFiles names f t.root

/-- What keeps the bytes of every file keeps the tree. -/
theorem mapFiles_congr
    (h : ∀ names content, t.get? names = some (.file content) → f names content = g names content) :
    t.mapFiles f = t.mapFiles g := by
  have hentries : mapEntries f t.entries = mapEntries g t.entries :=
    Node.mapEntries_congr t.entries fun x hx => h x.1 x.2 ((Node.mem_files_iff t.valid_root).mp hx)
  simp only [mapFiles, hentries]

theorem mapFiles_id (t : FileTree) : t.mapFiles (fun _ content => content) = t := by
  have hentries : mapEntries (fun _ content => content) t.entries = t.entries := Node.mapEntries_id t.entries
  cases t
  simp only [mapFiles, hentries]

theorem mapFiles_mapFiles (f g : List String → List UInt8 → List UInt8) (t : FileTree) :
    (t.mapFiles f).mapFiles g = t.mapFiles fun names content => g names (f names content) := by
  simp only [mapFiles, Node.mapEntries_mapEntries]

/-- Putting bytes in one file is a change of that file only. -/
theorem setFile_mapFiles (f : List String → List UInt8 → List UInt8) (t : FileTree) (names : List String)
    (content : List UInt8) : (t.mapFiles f).setFile names content =
      t.mapFiles fun other old => if other = names then content else f other old := by
  cases names with
  | nil =>
    refine mapFiles_congr fun names old hget => (if_neg ?_).symm
    rintro rfl
    cases hget
  | cons name names =>
    have hroot := Node.setFile_mapFiles content (name :: names) f t.root t.valid_root
    have hentries := Node.directory.inj hroot
    simp only [setFile, mapFiles] at hentries ⊢
    simp only [hentries]

/-! ## Paths lead to the same names -/

theorem follow_mapFiles (f : List String → List UInt8 → List UInt8) (t : FileTree) : ∀ (steps : List Step)
    (names : List String), (t.mapFiles f).follow names steps = t.follow names steps
  | [], _ => rfl
  | step :: steps, names => by
    rw [follow, follow, get?_mapFiles]
    rcases t.get? names with _ | ⟨content⟩ | ⟨entries⟩
    · rfl
    · rfl
    · cases step with
      | stay => exact follow_mapFiles f t steps names
      | up => exact follow_mapFiles f t steps names.dropLast
      | into name =>
        simp only [Option.map_some, Node.mapFiles, findEntry_mapEntries, Option.isSome_map]
        rw [follow_mapFiles f t steps]

theorem locate_mapFiles (f : List String → List UInt8 → List UInt8) (t : FileTree) (r : Route) :
    (t.mapFiles f).locate r = t.locate r := by
  rw [locate, locate, follow_mapFiles, here_mapFiles]

theorem nodeAt?_mapFiles (f : List String → List UInt8 → List UInt8) (t : FileTree) (r : Route) :
    ∃ g, (t.mapFiles f).nodeAt? r = (t.nodeAt? r).map (Option.map (Node.mapFiles g)) := by
  rw [nodeAt?, nodeAt?, locate_mapFiles]
  split
  · exact ⟨f, rfl⟩
  · rcases t.locate r with e | names
    · exact ⟨f, by cases e <;> rfl⟩
    · exact ⟨fun rest => f (names ++ rest), by simp only [get?_mapFiles]; rfl⟩

theorem holds_mapFiles (f : List String → List UInt8 → List UInt8) (t : FileTree) (r : Route) :
    (t.mapFiles f).holds r = t.holds r := by
  obtain ⟨g, hg⟩ := nodeAt?_mapFiles f t r
  rw [holds, holds, hg]
  rcases t.nodeAt? r with e | _ | node <;> rfl

theorem fileAt_mapFiles (f : List String → List UInt8 → List UInt8) (t : FileTree) (r : Route) :
    (t.mapFiles f).fileAt r = (t.fileAt r).map fun (names, content) => (names, f names content) := by
  rw [fileAt, fileAt, locate_mapFiles]
  rcases t.locate r with e | names
  · rfl
  · simp only [get?_mapFiles]
    rcases t.get? names with _ | ⟨content⟩ | ⟨entries⟩
    · rfl
    · simp [Node.mapFiles, Except.map]
    · rfl

/-! ## The same directories are missing -/

end FileTree

end BracketSpacing
