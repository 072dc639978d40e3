import Mathlib
import BracketSpacing.Proofs.Visits

/-!
# Walking a directory in order

* `inOrder`: the entries of a directory in the order of their names, which do not repeat (`pairwise_inOrder`).
* `Node.traverse`: the files at and below a node that are taken, by visiting the entries of each directory in that order
  and going into every directory among them.
* The traversal comes to the files that are taken (`mem_traverse_iff`), and to each before those whose components come
  later (`pairwise_traverse`). No other list has these two properties, so listing all that is below a directory, sorting
  it by components and keeping the files that are taken gives the same list (`FileTree.walk_of_fits`).
* `FileTree.walk_eq_traverse`: so a walk is a traversal, directory by directory, if no path below the directory is too
  long. If one is, the walk ends with an error for such a path (`FileTree.walk_of_not_fits`).
* `FileTree.walk_roundabout`: this happens where the path to the directory takes detours.
-/

namespace BracketSpacing

variable {entries : List (String × Node)} {name : String} {names : List String} {node : Node} {s : Selection}
  {p q : Path}

/-! ## Entries in order -/

/-- The entries of a directory in the order of their names. -/
def inOrder (entries : List (String × Node)) : List (String × Node) :=
  entries.mergeSort fun a b => decide (a.1 ≤ b.1)

theorem perm_inOrder (entries : List (String × Node)) : (inOrder entries).Perm entries :=
  List.mergeSort_perm _ _

theorem mem_inOrder {e : String × Node} : e ∈ inOrder entries ↔ e ∈ entries :=
  (perm_inOrder entries).mem_iff

/-- No name repeats, so each is before the next. -/
theorem pairwise_inOrder (h : validEntries entries = true) : (inOrder entries).Pairwise fun a b => a.1 < b.1 := by
  have hle : (inOrder entries).Pairwise fun a b => decide (a.1 ≤ b.1) = true := by
    apply List.pairwise_mergeSort
    · intro a b c hab hbc
      simp only [decide_eq_true_eq] at hab hbc ⊢
      exact hab.trans hbc
    · intro a b
      simpa using le_total a.1 b.1
  have hne : (inOrder entries).Pairwise fun a b => a.1 ≠ b.1 :=
    (perm_inOrder entries).symm.pairwise (pairwise_ne_of_validEntries h) fun hab => Ne.symm hab
  refine (hle.and hne).imp ?_
  intro a b hab
  exact lt_of_le_of_ne (of_decide_eq_true hab.1) hab.2

/-- A list of the same entries in the order of their names is this one. -/
theorem inOrder_eq_of_perm {list : List (String × Node)} (h : validEntries entries = true)
    (hperm : list.Perm entries) (hlt : list.Pairwise fun a b => a.1 < b.1) : inOrder entries = list := by
  apply ((perm_inOrder entries).trans hperm.symm).eq_of_pairwise _ (pairwise_inOrder h) hlt
  intro a b _ _ hab hba
  exact absurd hab (lt_asymm hba)

/-! ## Traversals -/

/-- The files at and below a node that are taken. The entries of a directory are visited in the order of their names,
and each directory among them is traversed in turn, whatever its name is. -/
def Node.traverse (s : Selection) (p : Path) : Node → List Path
  | .file _ => if s.takes p then [p] else []
  | .directory entries => (inOrder entries).attach.flatMap fun e => e.1.2.traverse s (p.append [e.1.1])
termination_by node => sizeOf node
decreasing_by
  obtain ⟨⟨n, node⟩, he⟩ := e
  have hlt := List.sizeOf_lt_of_mem (mem_inOrder.mp he)
  simp only [Node.directory.sizeOf_spec, Prod.mk.sizeOf_spec] at hlt ⊢
  omega

namespace Node

theorem traverse_file (s : Selection) (p : Path) (content : List UInt8) :
    (file content).traverse s p = if s.takes p then [p] else [] := by
  rw [traverse]

theorem traverse_directory (s : Selection) (p : Path) (entries : List (String × Node)) :
    (directory entries).traverse s p = (inOrder entries).flatMap fun e => e.2.traverse s (p.append [e.1]) := by
  rw [traverse, List.flatMap_subtype (g := fun e => e.2.traverse s (p.append [e.1])) fun _ _ => rfl,
    List.unattach_attach]

theorem entryFiles_eq_flatMap (entries : List (String × Node)) :
    entryFiles entries = entries.flatMap fun e => e.2.files.map fun (names, content) => (e.1 :: names, content) := by
  induction entries with
  | nil => rfl
  | cons e entries ih => rw [entryFiles, ih, List.flatMap_cons]

/-- A traversal comes to the files that are taken. -/
theorem perm_traverse (s : Selection) (p : Path) (node : Node) :
    (node.traverse s p).Perm ((node.files.map fun x => p.append x.1).filter s.takes) := by
  induction p, node using traverse.induct s with
  | case1 p content h =>
    rw [traverse_file, if_pos h]
    simp [files, Path.append, h]
  | case2 p content h =>
    rw [traverse_file, if_neg h]
    simp [files, Path.append, h]
  | case3 p entries ih =>
    have hfiles : ((directory entries).files.map fun x => p.append x.1).filter s.takes =
        entries.flatMap fun e => (e.2.files.map fun x => (p.append [e.1]).append x.1).filter s.takes := by
      rw [files, entryFiles_eq_flatMap, List.map_flatMap, List.filter_flatMap]
      simp [Function.comp_def, Path.append_append]
    rw [hfiles, traverse_directory]
    refine ((perm_inOrder entries).flatMap_right _).trans (List.Perm.flatMap_left entries ?_)
    intro e he
    exact ih ⟨e, mem_inOrder.mpr he⟩

/-- The members of a traversal are what names lead to and what is taken. -/
theorem mem_traverse_iff (h : node.valid = true) : q ∈ node.traverse s p ↔
    ∃ names content, node.get? names = some (.file content) ∧ q = p.append names ∧ s.takes q = true := by
  rw [(perm_traverse s p node).mem_iff, List.mem_filter, List.mem_map]
  constructor
  · rintro ⟨⟨⟨names, content⟩, hmem, rfl⟩, htakes⟩
    exact ⟨names, content, (mem_files_iff h).mp hmem, rfl, htakes⟩
  · rintro ⟨names, content, hget, rfl, htakes⟩
    exact ⟨⟨(names, content), (mem_files_iff h).mpr hget, rfl⟩, htakes⟩

/-- A traversal comes to each file before those whose components come later. -/
theorem pairwise_traverse (s : Selection) (p : Path) (node : Node) (h : node.valid = true) :
    (node.traverse s p).Pairwise fun a b => a.parts < b.parts := by
  induction p, node using traverse.induct s with
  | case1 p content ht =>
    rw [traverse_file, if_pos ht]
    exact List.pairwise_singleton _ _
  | case2 p content ht =>
    rw [traverse_file, if_neg ht]
    exact .nil
  | case3 p entries ih =>
    have hentries : validEntries entries = true := h
    rw [traverse_directory, List.pairwise_flatMap]
    constructor
    · intro e he
      exact ih ⟨e, he⟩ (valid_of_mem hentries (mem_inOrder.mp he))
    · refine (pairwise_inOrder hentries).imp_of_mem ?_
      intro a b ha hb hab x hx y hy
      -- The two files are below different entries, so the names of these entries decide.
      obtain ⟨names, -, -, rfl, -⟩ := (mem_traverse_iff (valid_of_mem hentries (mem_inOrder.mp ha))).mp hx
      obtain ⟨names', -, -, rfl, -⟩ := (mem_traverse_iff (valid_of_mem hentries (mem_inOrder.mp hb))).mp hy
      rw [Path.append_append, Path.append_append]
      apply List.append_left_lt
      exact List.cons_lt_cons_iff.mpr (Or.inl hab)

/-- So it comes to none twice. -/
theorem nodup_traverse (s : Selection) (p : Path) (node : Node) (h : node.valid = true) :
    (node.traverse s p).Nodup := by
  refine (pairwise_traverse s p node h).imp ?_
  rintro a b hab rfl
  exact lt_irrefl a.parts hab

end Node

/-! ## Sorting all files -/

/-- The order of lists of names is the lexicographic one. -/
theorem namesLe_iff : ∀ {a b : List String}, namesLe a b = true ↔ a ≤ b
  | [], b => by simp [namesLe, ← not_lt]
  | _ :: _, [] => by simp [namesLe, ← not_lt]
  | x :: a, y :: b => by
    rw [namesLe, ← not_lt, List.cons_lt_cons_iff]
    split
    · rename_i h
      subst h
      simp [namesLe_iff]
    · rename_i h
      simp [lt_iff_le_and_ne, h, Ne.symm h]

theorem pairwise_mergeSort_namesLe (paths : List Path) :
    (paths.mergeSort fun a b => namesLe a.parts b.parts).Pairwise fun a b => a.parts ≤ b.parts := by
  have hpairwise : (paths.mergeSort fun a b => namesLe a.parts b.parts).Pairwise
      fun a b => namesLe a.parts b.parts = true := by
    apply List.pairwise_mergeSort
    · intro a b c hab hbc
      rw [namesLe_iff] at hab hbc ⊢
      exact hab.trans hbc
    · intro a b
      rw [Bool.or_eq_true, namesLe_iff, namesLe_iff]
      exact le_total a.parts b.parts
  exact hpairwise.imp namesLe_iff.mp

/-! ## Walks -/

/-- No path below a node at the given one is too long. -/
def Node.Fits (p : Path) (node : Node) : Prop :=
  ∀ names sub, names ≠ [] → node.get? names = some sub → (p.append names).route.size < Route.sizeLimit

namespace FileTree

variable {t : FileTree}

theorem nodeAt?_append_of_fits (h : t.nodeAt? p.route = .ok (some (.directory entries)))
    (hfits : (Node.directory entries).Fits p) (hne : names ≠ [])
    (hget : (Node.directory entries).get? names = some node) : t.nodeAt? (p.append names).route = .ok (some node) := by
  rw [nodeAt?_append h hget, if_neg (Nat.not_le.mpr (hfits names node hne hget))]

/-- What is listed below a directory if nothing there is too long. -/
theorem exists_entriesListing_of_fits (hvalid : validEntries entries = true)
    (hfits : (Node.directory entries).Fits p) : ∃ paths, Node.entriesListing p entries = .ok paths := by
  rcases hlisting : Node.entriesListing p entries with ⟨e, q⟩ | paths
  · obtain ⟨-, hlong, names, sub, hne, hget, rfl⟩ := Node.entriesListing_eq_error_below hvalid hlisting
    exact absurd hlong (Nat.not_le.mpr (hfits names sub hne hget))
  · exact ⟨paths, rfl⟩

/-- All paths below a directory are short if the listed ones are. -/
theorem fits_of_entriesListing {paths : List Path} (hvalid : validEntries entries = true)
    (h : Node.entriesListing p entries = .ok paths) (hshort : ∀ q ∈ paths, q.route.size < Route.sizeLimit) :
    (Node.directory entries).Fits p := fun names sub hne hget =>
  hshort _ ((Node.mem_entriesListing_iff_below hvalid h).mpr ⟨names, sub, hne, hget, rfl⟩)

/-- Files below a directory that is walked are taken exactly if its traversal comes to them. -/
theorem isFile_and_takes_iff (h : t.nodeAt? p.route = .ok (some (.directory entries)))
    (hfits : (Node.directory entries).Fits p) :
    ((∃ names sub, names ≠ [] ∧ (Node.directory entries).get? names = some sub ∧ q = p.append names) ∧
      t.isFile q = true ∧ s.takes q = true) ↔ q ∈ (Node.directory entries).traverse s p := by
  rw [Node.mem_traverse_iff (valid_of_nodeAt? h)]
  constructor
  · rintro ⟨⟨names, sub, hne, hget, rfl⟩, hfile, htakes⟩
    obtain ⟨content, hcontent⟩ := isFile_iff.mp hfile
    rw [nodeAt?_append_of_fits h hfits hne hget] at hcontent
    cases hcontent
    exact ⟨names, content, hget, rfl, htakes⟩
  · rintro ⟨names, content, hget, rfl, htakes⟩
    have hne : names ≠ [] := by
      rintro rfl
      cases hget
    exact ⟨⟨names, _, hne, hget, rfl⟩, isFile_iff.mpr ⟨content, nodeAt?_append_of_fits h hfits hne hget⟩, htakes⟩

/-- A walk is a traversal if no path below the directory is too long. -/
theorem walk_of_fits (h : t.nodeAt? p.route = .ok (some (.directory entries)))
    (hfits : (Node.directory entries).Fits p) : t.walk s p = .ok ((Node.directory entries).traverse s p) := by
  have hvalid : validEntries entries = true := valid_of_nodeAt? h
  obtain ⟨paths, hpaths⟩ := exists_entriesListing_of_fits hvalid hfits
  have hlisted : ∀ q, q ∈ paths ↔ _ := fun q => Node.mem_entriesListing_iff_below hvalid hpaths
  have hkept : t.keepTaken s (paths.mergeSort fun a b => namesLe a.parts b.parts) =
      .ok ((paths.mergeSort fun a b => namesLe a.parts b.parts).filter fun q => t.isFile q && s.takes q) := by
    refine keepTaken_eq_ok_iff.mpr ⟨fun q hq => ?_, rfl⟩
    obtain ⟨names, sub, hne, hget, rfl⟩ := (hlisted q).mp (List.mem_mergeSort.mp hq)
    exact ⟨_, nodeAt?_append_of_fits h hfits hne hget⟩
  rw [walk_of_directory h, hpaths]
  refine hkept.trans (congrArg Except.ok ?_)
  -- Both lists have the same files, each once and in the order of components.
  have hlt := Node.pairwise_traverse s p (.directory entries) hvalid
  have hsorted := pairwise_mergeSort_namesLe paths
  have hperm : ((paths.mergeSort fun a b => namesLe a.parts b.parts).filter fun q => t.isFile q && s.takes q).Perm
      ((Node.directory entries).traverse s p) := by
    rw [List.perm_ext_iff_of_nodup _ (Node.nodup_traverse s p (.directory entries) hvalid)]
    · intro q
      rw [List.mem_filter, List.mem_mergeSort, Bool.and_eq_true, hlisted, isFile_and_takes_iff h hfits]
    · exact ((List.mergeSort_perm _ _).nodup_iff.mpr (Node.nodup_entriesListing hvalid hpaths)).filter _
  refine hperm.eq_of_pairwise ?_ (hsorted.filter _) (hlt.imp le_of_lt)
  intro a b ha hb hab hba
  obtain ⟨⟨names, -, -, -, rfl⟩, -⟩ := (isFile_and_takes_iff h hfits).mpr (hperm.mem_iff.mp ha)
  obtain ⟨⟨names', -, -, -, rfl⟩, -⟩ := (isFile_and_takes_iff h hfits).mpr hb
  have hparts : p.parts ++ names = p.parts ++ names' := le_antisymm hab hba
  rw [List.append_cancel_left hparts]

/-- If one is, the walk ends with the error for such a path. -/
theorem walk_of_not_fits (h : t.nodeAt? p.route = .ok (some (.directory entries)))
    (hfits : ¬(Node.directory entries).Fits p) : ∃ names sub, names ≠ [] ∧
      (Node.directory entries).get? names = some sub ∧ Route.sizeLimit ≤ (p.append names).route.size ∧
        t.walk s p = .error (.nameTooLong, p.append names) := by
  have hvalid : validEntries entries = true := valid_of_nodeAt? h
  rw [walk_of_directory h]
  rcases hlisting : Node.entriesListing p entries with ⟨e, q⟩ | paths
  · obtain ⟨rfl, hlong, names, sub, hne, hget, rfl⟩ := Node.entriesListing_eq_error_below hvalid hlisting
    exact ⟨names, sub, hne, hget, hlong, rfl⟩
  · have hlisted : ∀ q, q ∈ paths ↔ _ := fun q => Node.mem_entriesListing_iff_below hvalid hlisting
    rcases hkept : t.keepTaken s (paths.mergeSort fun a b => namesLe a.parts b.parts) with ⟨e, q⟩ | files
    · obtain ⟨hq, herror⟩ := keepTaken_eq_error hkept
      obtain ⟨names, sub, hne, hget, rfl⟩ := (hlisted q).mp (List.mem_mergeSort.mp hq)
      rw [nodeAt?_append h hget] at herror
      split at herror
      · rename_i hlong
        cases herror
        exact ⟨names, sub, hne, hget, hlong, hkept⟩
      · cases herror
    · -- A path that is too long is listed, and looking it up fails.
      refine absurd (fun names sub hne hget => ?_) hfits
      obtain ⟨found, hfound⟩ := (keepTaken_eq_ok_iff.mp hkept).1 (p.append names)
        (List.mem_mergeSort.mpr ((hlisted _).mpr ⟨names, sub, hne, hget, rfl⟩))
      rw [nodeAt?_append h hget] at hfound
      split at hfound
      · cases hfound
      · rename_i hshort
        exact Nat.not_le.mp hshort

/-- What a walk gives for an entry: the file itself if it is taken, or what a walk of the directory gives. -/
def WalksEntry (t : FileTree) (s : Selection) (p : Path) (files : List Path) : Node → Prop
  | .file _ => files = if s.takes p then [p] else []
  | .directory _ => t.walk s p = .ok files

theorem walksEntry_traverse (h : t.nodeAt? p.route = .ok (some (.directory entries)))
    (hfits : (Node.directory entries).Fits p) (hmem : (name, node) ∈ entries) :
    t.WalksEntry s (p.append [name]) (node.traverse s (p.append [name])) node := by
  have hvalid : validEntries entries = true := valid_of_nodeAt? h
  have hget : ∀ names, (Node.directory entries).get? (name :: names) = node.get? names := fun names => by
    rw [Node.get?, (findEntry_eq_some_iff hvalid).mpr hmem, Option.bind_some]
  cases node with
  | file content => exact Node.traverse_file s _ content
  | directory below =>
    have hthere : t.nodeAt? (p.append [name]).route = .ok (some (.directory below)) :=
      nodeAt?_append_of_fits h hfits (List.cons_ne_nil name []) ((hget []).trans (by rw [Node.get?]))
    refine walk_of_fits hthere fun names sub hne hsub => ?_
    rw [Path.append_append]
    exact hfits (name :: names) sub (List.cons_ne_nil name names) ((hget names).trans hsub)

/-- **A walk is a traversal in the order of names.** Let no path below a directory be too long. The walk of the
directory is the traversal that visits the entries of each directory in the order of their names and goes into every
directory among them. It has each file below the directory once if the extension of its whole path is taken and the path
holds no text that excludes it, and no other path. So it is made up of one list for each entry, in the order of names:
the file itself if it is taken, or the walk of the directory. If a path below the directory is too long, the walk ends
with an error for such a path. Below a path where there is nothing or a file there is nothing to walk, unless the system
does not tell what is there. -/
theorem walk_eq_traverse (t : FileTree) (s : Selection) (p : Path) :
    (∀ entries, t.nodeAt? p.route = .ok (some (.directory entries)) →
      ((Node.directory entries).Fits p →
        t.walk s p = .ok ((Node.directory entries).traverse s p) ∧
        ∃ lists, t.walk s p = .ok lists.flatten ∧
          List.Forall₂ (fun e files => t.WalksEntry s (p.append [e.1]) files e.2) (inOrder entries) lists) ∧
      (¬(Node.directory entries).Fits p → ∃ names sub, names ≠ [] ∧
        (Node.directory entries).get? names = some sub ∧ Route.sizeLimit ≤ (p.append names).route.size ∧
          t.walk s p = .error (.nameTooLong, p.append names)) ∧
      ((Node.directory entries).traverse s p).Nodup ∧
      ∀ q, q ∈ (Node.directory entries).traverse s p ↔
        ∃ names content, (Node.directory entries).get? names = some (.file content) ∧ q = p.append names ∧
          s.hasExtension q = true ∧ s.skips q = false) ∧
    (t.nodeAt? p.route = .ok none → t.walk s p = .ok []) ∧
    (∀ content, t.nodeAt? p.route = .ok (some (.file content)) → t.walk s p = .ok []) ∧
    ∀ e, t.nodeAt? p.route = .error e → t.walk s p = .error (e, p) := by
  refine ⟨?_, ?_, ?_, ?_⟩
  · intro entries h
    have hvalid : (Node.directory entries).valid = true := valid_of_nodeAt? h
    refine ⟨fun hfits => ⟨walk_of_fits h hfits, ?_⟩, fun hfits => walk_of_not_fits h hfits, ?_, ?_⟩
    · refine ⟨(inOrder entries).map fun e => e.2.traverse s (p.append [e.1]), ?_, ?_⟩
      · rw [walk_of_fits h hfits, Node.traverse_directory, List.flatMap_def]
      · rw [List.forall₂_map_right_iff, List.forall₂_same]
        intro e he
        exact walksEntry_traverse h hfits (mem_inOrder.mp he)
    · exact Node.nodup_traverse s p _ hvalid
    · intro q
      simp [Node.mem_traverse_iff hvalid, Selection.takes]
  · intro h
    rw [walk, h]
  · intro content h
    rw [walk, h]
  · intro e h
    rw [walk, h]

/-- Entries whose names come in another order as texts than as components, and a name that excludes a file. -/
def hyphenated : List (String × Node) :=
  [("a-b.php", .file []), ("vendor", .directory [("v.php", .file [])]),
    ("a", .directory [("b.php", .file []), (".h", .directory [("x.PHP", .file [])])]),
    ("a b", .directory [("c.php", .file [])])]

theorem walk_eq_traverse_hyphenated :
    FileTree.nodeAt? ⟨[("d", .directory hyphenated)], [], by decide⟩ (Path.ofString "d").route =
      .ok (some (.directory hyphenated)) ∧ (Node.directory hyphenated).Fits (Path.ofString "d") ∧
    FileTree.walk ⟨[("d", .directory hyphenated)], [], by decide⟩ {} (Path.ofString "d") =
      .ok (["d/a/.h/x.PHP", "d/a/b.php", "d/a b/c.php", "d/a-b.php"].map Path.ofString) ∧
    FileTree.nodeAt? ⟨[("d", .directory hyphenated)], [], by decide⟩ (Path.ofString "e").route = .ok none ∧
    FileTree.walk ⟨[("d", .directory hyphenated)], [], by decide⟩ {} (Path.ofString "e") = .ok [] := by
  have hnode : FileTree.nodeAt? ⟨[("d", .directory hyphenated)], [], by decide⟩ (Path.ofString "d").route =
      .ok (some (.directory hyphenated)) := by rfl
  have hnone : FileTree.nodeAt? ⟨[("d", .directory hyphenated)], [], by decide⟩ (Path.ofString "e").route =
      .ok none := by rfl
  have hlisting : Node.entriesListing (Path.ofString "d") hyphenated = .ok (["d/a-b.php", "d/vendor",
      "d/vendor/v.php", "d/a", "d/a/b.php", "d/a/.h", "d/a/.h/x.PHP", "d/a b", "d/a b/c.php"].map Path.ofString) := by
    rfl
  have hfits : (Node.directory hyphenated).Fits (Path.ofString "d") :=
    fits_of_entriesListing (by decide) hlisting (by decide)
  have houter : inOrder hyphenated =
      [("a", .directory [("b.php", .file []), (".h", .directory [("x.PHP", .file [])])]),
        ("a b", .directory [("c.php", .file [])]), ("a-b.php", .file []),
        ("vendor", .directory [("v.php", .file [])])] :=
    inOrder_eq_of_perm (by decide) (@List.perm_append_comm _ [_, _] [_, _]) (by decide)
  have hinner : inOrder [("b.php", .file []), (".h", .directory [("x.PHP", .file [])])] =
      [(".h", .directory [("x.PHP", .file [])]), ("b.php", .file [])] :=
    inOrder_eq_of_perm (by decide) (.swap _ _ _) (by decide)
  have hsingle : ∀ e : String × Node, inOrder [e] = [e] := fun e => List.mergeSort_singleton e
  refine ⟨hnode, hfits, ?_, hnone, (walk_eq_traverse _ {} (.ofString "e")).2.1 hnone⟩
  rw [(((walk_eq_traverse _ {} (.ofString "d")).1 hyphenated hnode).1 hfits).1]
  simp only [Node.traverse_directory, houter, hinner, hsingle, Node.traverse_file, List.flatMap_cons, List.flatMap_nil]
  rfl

end FileTree

/-! ## Detours -/

theorem utf8ByteSize_intercalate_slash : ∀ (first : String) (rest : List String),
    ("/".intercalate (first :: rest)).utf8ByteSize =
      first.utf8ByteSize + (rest.map fun part => part.utf8ByteSize + 1).sum
  | first, [] => by
    rw [String.intercalate_singleton]
    rfl
  | first, next :: rest => by
    have hslash : "/".utf8ByteSize = 1 := rfl
    rw [String.intercalate_cons_cons, String.utf8ByteSize_append, String.utf8ByteSize_append,
      utf8ByteSize_intercalate_slash next rest, List.map_cons, List.sum_cons, hslash]
    omega

/-- A path into a directory that leaves and enters it again, so many times. -/
def roundabout (rounds : Nat) : Path :=
  ⟨.relative, "a" :: (List.replicate rounds ["..", "a"]).flatten⟩

/-- A tree with a file in a directory. -/
def shallow : FileTree :=
  (FileTree.empty []).addFile ["a", "b.php"] []

theorem size_roundabout (rounds : Nat) (names : List String) : ((roundabout rounds).append names).route.size =
    1 + 5 * rounds + (names.map fun name => name.utf8ByteSize + 1).sum := by
  have hrounds : ((List.replicate rounds ["..", "a"]).flatten.map fun part => part.utf8ByteSize + 1).sum =
      5 * rounds := by
    induction rounds with
    | zero => rfl
    | succ k ih =>
      rw [List.replicate_succ, List.flatten_cons, List.map_append, List.sum_append, ih]
      have hround : (["..", "a"].map fun part : String => part.utf8ByteSize + 1).sum = 5 := rfl
      omega
  have htext : ((roundabout rounds).append names).text =
      "/".intercalate ("a" :: ((List.replicate rounds ["..", "a"]).flatten ++ names)) := String.empty_append
  have hfirst : "a".utf8ByteSize = 1 := rfl
  rw [Path.route, htext, utf8ByteSize_intercalate_slash, List.map_append, List.sum_append, hrounds, hfirst,
    Nat.add_assoc]

theorem hasNul_roundabout (rounds : Nat) : (roundabout rounds).route.hasNul = false := by
  rw [Route.hasNul, List.any_eq_false]
  intro step hstep
  obtain ⟨part, hpart, rfl⟩ := List.mem_map.mp hstep
  have hround : part = "a" ∨ part = ".." := by
    rcases List.mem_cons.mp hpart with rfl | hpart
    · exact Or.inl rfl
    · obtain ⟨round, hround, hmem⟩ := List.mem_flatten.mp hpart
      rw [List.eq_of_mem_replicate hround] at hmem
      simpa [or_comm] using hmem
  rcases hround with rfl | rfl <;> decide

/-- Such a path leads to the directory unless it is too long. -/
theorem nodeAt?_roundabout {rounds : Nat} (h : 1 + 5 * rounds < Route.sizeLimit) :
    shallow.nodeAt? (roundabout rounds).route = .ok (some (.directory [("b.php", .file [])])) := by
  have hfollow : ∀ k,
      shallow.follow ["a"] ((List.replicate k ["..", "a"]).flatten.map Step.ofComponent) = .ok ["a"] := by
    intro k
    induction k with
    | zero => rfl
    | succ k ih => exact ih
  have hsize : ¬Route.sizeLimit ≤ (roundabout rounds).route.size := by
    have hsize := size_roundabout rounds []
    rw [Path.append, List.append_nil] at hsize
    rw [hsize]
    simpa using h
  have hlocate : shallow.locate (roundabout rounds).route = .ok ["a"] := by
    rw [FileTree.locate, if_neg hsize]
    exact hfollow rounds
  rw [FileTree.nodeAt?, hasNul_roundabout, hlocate]
  rfl

/-- A file is listed nowhere if the path to its directory takes so many detours that its own path is too long. -/
theorem FileTree.walk_roundabout :
    shallow.nodeAt? (roundabout 818).route = .ok (some (.directory [("b.php", .file [])])) ∧
    shallow.walk {} (roundabout 818) = .error (.nameTooLong, (roundabout 818).append ["b.php"]) := by
  have hnode : shallow.nodeAt? (roundabout 818).route = .ok (some (.directory [("b.php", .file [])])) :=
    nodeAt?_roundabout (by decide)
  have hlong : ¬(Node.directory [("b.php", .file [])]).Fits (roundabout 818) := by
    intro hfits
    have hshort := hfits ["b.php"] _ (List.cons_ne_nil _ _) rfl
    rw [size_roundabout] at hshort
    exact absurd hshort (by decide)
  obtain ⟨names, sub, hne, hget, -, hwalk⟩ := walk_of_not_fits (s := {}) hnode hlong
  -- There is but one path below the directory.
  obtain ⟨name, names, rfl⟩ := List.exists_cons_of_ne_nil hne
  rw [Node.get?, Option.bind_eq_some_iff] at hget
  obtain ⟨node, hfind, hget⟩ := hget
  cases List.mem_singleton.mp ((findEntry_eq_some_iff (by decide)).mp hfind)
  cases names with
  | nil => exact ⟨hnode, hwalk⟩
  | cons name names => cases hget

end BracketSpacing
