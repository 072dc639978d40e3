import BracketSpacing.Proofs.Contents
import BracketSpacing.Proofs.Errors
import BracketSpacing.Proofs.Naming

/-!
# What a walk lists

* Names that lead somewhere from a directory are proper, and a path to the directory with these names after it leads
  there too, unless it is too long (`FileTree.nodeAt?_append`).
* `Node.mem_listing_iff`: a listing has the path of everything below a node, each once (`Node.nodup_listing`). There is
  none only if the path of a directory is too long (`Node.listing_eq_error`).
* `FileTree.mem_walk`: so a walk has files only, and they are below the directory that is walked.
* `FileTree.isTooDeep_iff`: what can be listed is too deep if a directory lies more levels below it than there are.
-/

namespace BracketSpacing

variable {entries : List (String × Node)} {name : String} {names : List String} {node sub : Node} {p q : Path}
  {t : FileTree} {s : Selection}

/-! ## Names that lead somewhere -/

/-- The entry of a name is the only one of that name. -/
theorem findEntry_eq_some_iff (h : validEntries entries = true) :
    findEntry name entries = some node ↔ (name, node) ∈ entries := by
  induction entries with
  | nil => simp [findEntry]
  | cons e entries ih =>
    obtain ⟨n, other⟩ := e
    simp only [validEntries, Bool.and_eq_true, Bool.not_eq_true'] at h
    obtain ⟨⟨⟨-, hunique⟩, -⟩, hentries⟩ := h
    rw [findEntry, List.mem_cons]
    split
    · rename_i hn
      subst hn
      have hno : (n, node) ∉ entries := by
        intro hmem
        rw [List.any_eq_false] at hunique
        exact hunique _ hmem (beq_self_eq_true n)
      simp [hno, eq_comm]
    · rename_i hn
      simp [ih hentries, Ne.symm hn]

theorem pairwise_ne_of_validEntries (h : validEntries entries = true) : entries.Pairwise fun a b => a.1 ≠ b.1 := by
  induction entries with
  | nil => exact .nil
  | cons e entries ih =>
    obtain ⟨n, other⟩ := e
    simp only [validEntries, Bool.and_eq_true, Bool.not_eq_true'] at h
    obtain ⟨⟨⟨-, hunique⟩, -⟩, hentries⟩ := h
    rw [List.any_eq_false] at hunique
    refine .cons ?_ (ih hentries)
    intro b hb he
    exact hunique b hb (beq_iff_eq.mpr he.symm)

theorem valid_of_mem (h : validEntries entries = true) {e : String × Node} (hmem : e ∈ entries) :
    e.2.valid = true :=
  (Node.valid_of_findEntry h ((findEntry_eq_some_iff h).mpr hmem)).2

namespace Node

theorem valid_of_get? : ∀ {names : List String} {node sub : Node}, node.valid = true →
    node.get? names = some sub → sub.valid = true
  | [], node, sub, h, hget => by
    rw [get?] at hget
    cases hget
    exact h
  | _ :: _, .file _, _, _, hget => by cases hget
  | name :: names, .directory entries, sub, h, hget => by
    rw [get?, Option.bind_eq_some_iff] at hget
    obtain ⟨node, hfind, hget⟩ := hget
    exact valid_of_get? (valid_of_findEntry h hfind).2 hget

theorem get?_append : ∀ (names rest : List String) (node : Node),
    node.get? (names ++ rest) = (node.get? names).bind fun sub => sub.get? rest
  | [], rest, node => by rw [List.nil_append, get?, Option.bind_some]
  | _ :: _, _, .file _ => rfl
  | name :: names, rest, .directory entries => by
    rw [List.cons_append, get?, get?]
    cases findEntry name entries with
    | none => rfl
    | some node => exact get?_append names rest node

/-- All names that lead somewhere are proper. -/
theorem isEntryName_of_get? : ∀ {names : List String} {node sub : Node}, node.valid = true →
    node.get? names = some sub → ∀ name ∈ names, isEntryName name = true
  | [], _, _, _, _ => fun _ h => absurd h List.not_mem_nil
  | _ :: _, .file _, _, _, hget => by cases hget
  | name :: names, .directory entries, sub, h, hget => by
    rw [get?, Option.bind_eq_some_iff] at hget
    obtain ⟨node, hfind, hget⟩ := hget
    obtain ⟨hname, hvalid⟩ := valid_of_findEntry h hfind
    exact List.forall_mem_cons.mpr ⟨hname, isEntryName_of_get? hvalid hget⟩

/-- Below a directory is what is at or below one of its entries. -/
theorem exists_below_iff (h : validEntries entries = true) :
    (∃ names sub, names ≠ [] ∧ (directory entries).get? names = some sub ∧ q = p.append names) ↔
      ∃ e ∈ entries, ∃ names sub, e.2.get? names = some sub ∧ q = p.append (e.1 :: names) := by
  constructor
  · rintro ⟨names, sub, hne, hget, hq⟩
    obtain ⟨name, names, rfl⟩ := List.exists_cons_of_ne_nil hne
    rw [get?, Option.bind_eq_some_iff] at hget
    obtain ⟨node, hfind, hget⟩ := hget
    exact ⟨(name, node), (findEntry_eq_some_iff h).mp hfind, names, sub, hget, hq⟩
  · rintro ⟨⟨name, node⟩, hmem, names, sub, hget, hq⟩
    refine ⟨name :: names, sub, List.cons_ne_nil name names, ?_, hq⟩
    rw [get?, (findEntry_eq_some_iff h).mpr hmem, Option.bind_some, hget]

end Node

theorem isEntryName_iff : isEntryName name = true ↔ name ≠ "" ∧ name ≠ "." ∧ name ≠ ".." ∧
    name.utf8ByteSize ≤ nameLimit ∧ '/' ∉ name.toList ∧ '\x00' ∉ name.toList := by
  simp [isEntryName, and_assoc]

theorem Step.ofComponent_of_isEntryName (h : isEntryName name = true) : Step.ofComponent name = .into name := by
  obtain ⟨hne, hdot, hdots, -⟩ := isEntryName_iff.mp h
  rw [Step.ofComponent, if_neg (by simp [hne, hdot]), if_neg hdots]

namespace Path

theorem isComponent_of_isEntryName (h : isEntryName name = true) : IsComponent name := by
  obtain ⟨hne, hdot, -, -, hslash, -⟩ := isEntryName_iff.mp h
  exact ⟨hne, hdot, hslash⟩

theorem append_append (p : Path) (a b : List String) : (p.append a).append b = p.append (a ++ b) := by
  unfold append
  simp

theorem append_inj {a b : List String} : p.append a = p.append b ↔ a = b := by
  simp [append]

end Path

/-! ## Routes below a directory -/

namespace FileTree

theorem follow_append : ∀ (steps more : List Step) (names : List String), t.follow names (steps ++ more) =
    match t.follow names steps with
    | .ok names => t.follow names more
    | .error e => .error e
  | [], _, _ => rfl
  | step :: steps, more, names => by
    rw [List.cons_append, follow, follow]
    rcases t.get? names with _ | ⟨content⟩ | ⟨entries⟩
    · rfl
    · rfl
    · cases step with
      | stay => exact follow_append steps more names
      | up => exact follow_append steps more names.dropLast
      | into name =>
        simp only
        split
        · exact follow_append steps more (names ++ [name])
        · split <;> rfl

theorem get?_append (t : FileTree) (names rest : List String) :
    t.get? (names ++ rest) = (t.get? names).bind fun sub => sub.get? rest :=
  Node.get?_append names rest t.root

/-- Names that lead somewhere are followed one by one. -/
theorem follow_into : ∀ {rest names : List String}, t.get? (names ++ rest) = some node →
    t.follow names (rest.map .into) = .ok (names ++ rest)
  | [], names, _ => by rw [List.map_nil, follow, List.append_nil]
  | name :: rest, names, h => by
    have hfind := h
    rw [get?_append, Option.bind_eq_some_iff] at hfind
    obtain ⟨sub, hsub, hget⟩ := hfind
    rw [List.map_cons, follow, hsub]
    cases sub with
    | file content => cases hget
    | directory entries =>
      rw [Node.get?, Option.bind_eq_some_iff] at hget
      obtain ⟨next, hnext, -⟩ := hget
      simp only [hnext, Option.isSome_some, if_true]
      have happ : names ++ name :: rest = names ++ [name] ++ rest := by simp
      rw [happ] at h ⊢
      exact follow_into h

theorem nodeAt?_eq_some {r : Route} (h : t.nodeAt? r = .ok (some node)) :
    r.hasNul = false ∧ ∃ names, t.locate r = .ok names ∧ t.get? names = some node := by
  rw [nodeAt?] at h
  split at h
  · cases h
  · rename_i hnul
    refine ⟨by simpa using hnul, ?_⟩
    split at h
    · rename_i names hlocate
      exact ⟨names, hlocate, Except.ok.inj h⟩
    · cases h
    · cases h

theorem valid_of_nodeAt? {r : Route} (h : t.nodeAt? r = .ok (some node)) : node.valid = true := by
  obtain ⟨-, names, -, hget⟩ := nodeAt?_eq_some h
  exact Node.valid_of_get? t.valid_root hget

theorem fileAt_eq_ok {r : Route} {content : List UInt8} (hlocate : t.locate r = .ok names)
    (hget : t.get? names = some (.file content)) : t.fileAt r = .ok (names, content) := by
  simp only [fileAt, hlocate, hget]

end FileTree

theorem steps_append (hnames : ∀ name ∈ names, isEntryName name = true) :
    (p.append names).route.steps = p.route.steps ++ names.map .into := by
  simp only [Path.route, Path.append, List.map_append]
  rw [List.map_congr_left fun name hname => Step.ofComponent_of_isEntryName (hnames name hname)]

theorem hasNul_append (hp : p.route.hasNul = false) (hnames : ∀ name ∈ names, isEntryName name = true) :
    (p.append names).route.hasNul = false := by
  rw [Route.hasNul] at hp ⊢
  rw [steps_append hnames, List.any_append, hp, Bool.false_or, List.any_map, List.any_eq_false]
  intro name hname
  simpa using (isEntryName_iff.mp (hnames name hname)).2.2.2.2.2

/-- Names that lead on from a directory lead there from its path too, unless the path is too long. -/
theorem FileTree.nodeAt?_append (h : t.nodeAt? p.route = .ok (some (.directory entries)))
    (hget : (Node.directory entries).get? names = some node) :
    t.nodeAt? (p.append names).route =
      if Route.sizeLimit ≤ (p.append names).route.size then .error .nameTooLong else .ok (some node) := by
  obtain ⟨hnul, start, hlocate, hdir⟩ := nodeAt?_eq_some h
  have hnames := Node.isEntryName_of_get? (valid_of_nodeAt? h) hget
  have hnode : t.get? (start ++ names) = some node := by rw [get?_append, hdir, Option.bind_some, hget]
  have hsteps : t.follow (if (p.append names).route.fromTop then [] else t.here) (p.append names).route.steps =
      .ok (start ++ names) := by
    rw [locate] at hlocate
    split at hlocate
    · cases hlocate
    · have htop : (p.append names).route.fromTop = p.route.fromTop := rfl
      rw [steps_append hnames, htop, follow_append, hlocate]
      exact follow_into hnode
  rw [nodeAt?, if_neg (by simp [hasNul_append hnul hnames]), locate, hsteps]
  by_cases hlong : Route.sizeLimit ≤ (p.append names).route.size
  · rw [if_pos hlong, if_pos hlong]
  · rw [if_neg hlong, if_neg hlong]
    exact congrArg Except.ok hnode

/-! ## Listings -/

namespace Node

theorem entriesListing_cons (p : Path) (name : String) (node : Node) (entries : List (String × Node)) :
    entriesListing p ((name, node) :: entries) = do
      let below ← node.listing (p.append [name])
      let others ← entriesListing p entries
      return p.append [name] :: below ++ others := by
  rw [entriesListing]

theorem entriesListing_cons_eq_ok_iff {paths : List Path} :
    entriesListing p ((name, node) :: entries) = .ok paths ↔ ∃ below others,
      node.listing (p.append [name]) = .ok below ∧ entriesListing p entries = .ok others ∧
        paths = p.append [name] :: below ++ others := by
  simp only [entriesListing_cons, bind_eq_ok_iff, pure, Except.pure, Except.ok.injEq, exists_and_left]
  simp only [eq_comm (b := paths)]

mutual

/-- A listing has the paths of all that is below a node. -/
theorem mem_listing_iff : ∀ {p q : Path} {node : Node} {paths : List Path}, node.valid = true →
    node.listing p = .ok paths →
      (q ∈ paths ↔ ∃ names sub, names ≠ [] ∧ node.get? names = some sub ∧ q = p.append names)
  | p, q, .file content, paths, _, h => by
    cases h
    simp only [List.not_mem_nil, false_iff]
    rintro ⟨names, sub, hne, hget, -⟩
    obtain ⟨name, names, rfl⟩ := List.exists_cons_of_ne_nil hne
    cases hget
  | p, q, .directory entries, paths, hvalid, h => by
    rw [listing] at h
    split at h
    · cases h
    · rw [mem_entriesListing_iff hvalid h, exists_below_iff hvalid]

theorem mem_entriesListing_iff : ∀ {p q : Path} {entries : List (String × Node)} {paths : List Path},
    validEntries entries = true → entriesListing p entries = .ok paths →
      (q ∈ paths ↔ ∃ e ∈ entries, ∃ names sub, e.2.get? names = some sub ∧ q = p.append (e.1 :: names))
  | p, q, [], paths, _, h => by
    cases h
    simp
  | p, q, (name, node) :: entries, paths, hvalid, h => by
    obtain ⟨below, others, hbelow, hothers, rfl⟩ := entriesListing_cons_eq_ok_iff.mp h
    simp only [validEntries, Bool.and_eq_true] at hvalid
    rw [List.cons_append, List.mem_cons, List.mem_append, mem_listing_iff hvalid.1.2 hbelow,
      mem_entriesListing_iff hvalid.2 hothers, ← or_assoc]
    have hhead : (q = p.append [name] ∨ ∃ names sub, names ≠ [] ∧ node.get? names = some sub ∧
        q = (p.append [name]).append names) ↔
          ∃ names sub, node.get? names = some sub ∧ q = p.append (name :: names) := by
      constructor
      · rintro (rfl | ⟨names, sub, -, hget, rfl⟩)
        · exact ⟨[], node, by rw [get?], rfl⟩
        · exact ⟨names, sub, hget, Path.append_append p [name] names⟩
      · rintro ⟨names, sub, hget, rfl⟩
        cases names with
        | nil => exact Or.inl rfl
        | cons n names =>
          exact Or.inr ⟨n :: names, sub, List.cons_ne_nil n names, hget, (p.append_append [name] (n :: names)).symm⟩
    rw [hhead]
    simp only [List.mem_cons, exists_eq_or_imp]

end

mutual

/-- A listing has no path twice, for no directory has two entries of one name. -/
theorem nodup_listing : ∀ {p : Path} {node : Node} {paths : List Path}, node.valid = true →
    node.listing p = .ok paths → paths.Nodup
  | p, .file content, paths, _, h => by
    cases h
    exact List.nodup_nil
  | p, .directory entries, paths, hvalid, h => by
    rw [listing] at h
    split at h
    · cases h
    · exact nodup_entriesListing hvalid h

theorem nodup_entriesListing : ∀ {p : Path} {entries : List (String × Node)} {paths : List Path},
    validEntries entries = true → entriesListing p entries = .ok paths → paths.Nodup
  | p, [], paths, _, h => by
    cases h
    exact List.nodup_nil
  | p, (name, node) :: entries, paths, hvalid, h => by
    obtain ⟨below, others, hbelow, hothers, rfl⟩ := entriesListing_cons_eq_ok_iff.mp h
    have hunique := (List.pairwise_cons.mp (pairwise_ne_of_validEntries hvalid)).1
    simp only [validEntries, Bool.and_eq_true] at hvalid
    rw [List.nodup_append, List.nodup_cons]
    refine ⟨⟨?_, nodup_listing hvalid.1.2 hbelow⟩, nodup_entriesListing hvalid.2 hothers, ?_⟩
    · rw [mem_listing_iff hvalid.1.2 hbelow]
      rintro ⟨names, sub, hne, -, h⟩
      rw [Path.append_append, Path.append_inj, List.singleton_append, List.cons.injEq] at h
      exact hne h.2.symm
    · -- The paths at and below the entry go on with its name, and the others with that of another entry.
      have hfirst : ∀ a ∈ p.append [name] :: below, ∃ names, a = p.append (name :: names) := by
        rw [List.forall_mem_cons]
        refine ⟨⟨[], rfl⟩, fun a ha => ?_⟩
        obtain ⟨names, sub, -, -, rfl⟩ := (mem_listing_iff hvalid.1.2 hbelow).mp ha
        exact ⟨names, Path.append_append p [name] names⟩
      intro a ha b hb
      obtain ⟨names, rfl⟩ := hfirst a ha
      obtain ⟨e, he, names', sub, -, rfl⟩ := (mem_entriesListing_iff hvalid.2 hothers).mp hb
      rw [ne_eq, Path.append_inj, List.cons.injEq]
      exact fun h => hunique e he h.1

end

mutual

/-- Only a directory whose path is too long cannot be listed. -/
theorem listing_eq_error : ∀ {p q : Path} {node : Node} {e : FileError}, node.valid = true →
    node.listing p = .error (e, q) → e = .nameTooLong ∧ Route.sizeLimit ≤ q.route.size ∧
      ∃ names sub, node.get? names = some sub ∧ q = p.append names
  | p, q, .file content, e, _, h => by cases h
  | p, q, .directory entries, e, hvalid, h => by
    rw [listing] at h
    split at h
    · rename_i hlong
      cases h
      refine ⟨rfl, hlong, [], _, by rw [get?], ?_⟩
      simp [Path.append]
    · obtain ⟨he, hlong, hbelow⟩ := entriesListing_eq_error hvalid h
      obtain ⟨names, sub, -, hget, hq⟩ := (exists_below_iff hvalid).mpr hbelow
      exact ⟨he, hlong, names, sub, hget, hq⟩

theorem entriesListing_eq_error : ∀ {p q : Path} {entries : List (String × Node)} {e : FileError},
    validEntries entries = true → entriesListing p entries = .error (e, q) →
      e = .nameTooLong ∧ Route.sizeLimit ≤ q.route.size ∧
        ∃ x ∈ entries, ∃ names sub, x.2.get? names = some sub ∧ q = p.append (x.1 :: names)
  | p, q, [], e, _, h => by cases h
  | p, q, (name, node) :: entries, e, hvalid, h => by
    simp only [validEntries, Bool.and_eq_true] at hvalid
    rw [entriesListing_cons, bind_eq_error_iff] at h
    obtain h | ⟨below, -, h⟩ := h
    · obtain ⟨he, hlong, names, sub, hget, rfl⟩ := listing_eq_error hvalid.1.2 h
      exact ⟨he, hlong, _, List.mem_cons_self, names, sub, hget, Path.append_append p [name] names⟩
    · obtain h | ⟨_, -, h⟩ := bind_eq_error_iff.mp h
      · obtain ⟨he, hlong, x, hx, hbelow⟩ := entriesListing_eq_error hvalid.2 h
        exact ⟨he, hlong, x, List.mem_cons_of_mem _ hx, hbelow⟩
      · exact absurd h pure_ne_error

end

theorem mem_entriesListing_iff_below {paths : List Path} (hvalid : validEntries entries = true)
    (h : entriesListing p entries = .ok paths) : q ∈ paths ↔
      ∃ names sub, names ≠ [] ∧ (directory entries).get? names = some sub ∧ q = p.append names := by
  rw [mem_entriesListing_iff hvalid h, exists_below_iff hvalid]

theorem entriesListing_eq_error_below {e : FileError} (hvalid : validEntries entries = true)
    (h : entriesListing p entries = .error (e, q)) : e = .nameTooLong ∧ Route.sizeLimit ≤ q.route.size ∧
      ∃ names sub, names ≠ [] ∧ (directory entries).get? names = some sub ∧ q = p.append names := by
  obtain ⟨he, hlong, hbelow⟩ := entriesListing_eq_error hvalid h
  exact ⟨he, hlong, (exists_below_iff hvalid).mpr hbelow⟩

/-! ## Directories that lie too deep -/

/-- A directory below another one is at or below one of its entries. -/
theorem exists_directory_iff {levels : Nat} (h : validEntries entries = true) :
    (∃ names below, names.length = levels + 1 ∧ (directory entries).get? names = some (directory below)) ↔
      ∃ e ∈ entries, ∃ names below, names.length = levels ∧ e.2.get? names = some (directory below) := by
  constructor
  · rintro ⟨_ | ⟨name, names⟩, below, hlength, hget⟩
    · cases hlength
    · rw [get?, Option.bind_eq_some_iff] at hget
      obtain ⟨node, hfind, hget⟩ := hget
      exact ⟨(name, node), (findEntry_eq_some_iff h).mp hfind, names, below, Nat.succ.inj hlength, hget⟩
  · rintro ⟨⟨name, node⟩, hmem, names, below, hlength, hget⟩
    refine ⟨name :: names, below, congrArg (· + 1) hlength, ?_⟩
    rw [get?, (findEntry_eq_some_iff h).mpr hmem, Option.bind_some, hget]

mutual

/-- In what can be listed, a directory is too deep if it lies just so many levels below. -/
theorem tooDeep?_iff : ∀ (levels : Nat) {p : Path} {node : Node} {paths : List Path}, node.valid = true →
    node.listing p = .ok paths → node.tooDeep? levels p ≠ some false ∧
      (node.tooDeep? levels p = some true ↔
        ∃ names below, names.length = levels ∧ node.get? names = some (directory below))
  | levels, p, .file content, paths, _, _ => by
    refine ⟨nofun, ⟨nofun, ?_⟩⟩
    rintro ⟨_ | ⟨name, names⟩, below, -, hget⟩ <;> cases hget
  | 0, p, .directory entries, paths, _, _ =>
    ⟨by simp [tooDeep?], fun _ => ⟨[], entries, rfl, by rw [get?]⟩, fun _ => rfl⟩
  | levels + 1, p, .directory entries, paths, hvalid, h => by
    rw [listing] at h
    split at h
    · cases h
    · rename_i hshort
      rw [tooDeep?, if_neg hshort, exists_directory_iff hvalid]
      exact entriesTooDeep?_iff levels hvalid h

theorem entriesTooDeep?_iff : ∀ (levels : Nat) {p : Path} {entries : List (String × Node)} {paths : List Path},
    validEntries entries = true → entriesListing p entries = .ok paths → entriesTooDeep? levels p entries ≠ some false ∧
      (entriesTooDeep? levels p entries = some true ↔
        ∃ e ∈ entries, ∃ names below, names.length = levels ∧ e.2.get? names = some (directory below))
  | levels, p, [], paths, _, _ => by simp [entriesTooDeep?]
  | levels, p, (name, node) :: entries, paths, hvalid, h => by
    obtain ⟨below, others, hbelow, hothers, -⟩ := entriesListing_cons_eq_ok_iff.mp h
    simp only [validEntries, Bool.and_eq_true] at hvalid
    obtain ⟨hne, hfirst⟩ := tooDeep?_iff levels hvalid.1.2 hbelow
    obtain ⟨hne', hrest⟩ := entriesTooDeep?_iff levels hvalid.2 hothers
    rw [entriesTooDeep?]
    simp only [List.mem_cons, exists_eq_or_imp, ← hfirst, ← hrest]
    generalize node.tooDeep? levels (p.append [name]) = deep at hne ⊢
    rcases deep with _ | _ | _
    · simpa using hne'
    · exact absurd rfl hne
    · simp

end

end Node

/-! ## Files that are kept -/

namespace FileTree

/-- Whether a path leads to a file. -/
def isFile (t : FileTree) (p : Path) : Bool :=
  match t.nodeAt? p.route with
  | .ok (some (.file _)) => true
  | _ => false

theorem isFile_iff : t.isFile p = true ↔ ∃ content, t.nodeAt? p.route = .ok (some (.file content)) := by
  rw [isFile]
  rcases t.nodeAt? p.route with e | _ | ⟨content⟩ | ⟨entries⟩ <;> simp

/-- Files that are taken are kept, if it can be told of all paths what is there. -/
theorem keepTaken_eq_ok_iff {files : List Path} : ∀ {paths : List Path}, t.keepTaken s paths = .ok files ↔
    (∀ p ∈ paths, ∃ found, t.nodeAt? p.route = .ok found) ∧
      files = paths.filter fun p => t.isFile p && s.takes p
  | [] => by simp [keepTaken, eq_comm]
  | p :: paths => by
    have ih : ∀ {files}, t.keepTaken s paths = .ok files ↔ _ := keepTaken_eq_ok_iff
    rw [keepTaken, List.forall_mem_cons, List.filter_cons, isFile]
    rcases t.nodeAt? p.route with e | _ | ⟨content⟩ | ⟨entries⟩
    · simp
    · simp [ih]
    · cases hrest : t.keepTaken s paths with
      | error e =>
        have hnone : ¬∀ q ∈ paths, ∃ found, t.nodeAt? q.route = .ok found := by
          intro hall
          rw [ih.mpr ⟨hall, rfl⟩] at hrest
          cases hrest
        simp [Except.map, hnone]
      | ok others =>
        obtain ⟨hall, rfl⟩ := ih.mp hrest
        simp only [Except.map, Except.ok.injEq, Bool.true_and, exists_eq', true_and]
        rw [and_iff_right hall, eq_comm]
    · simp [ih]

theorem keepTaken_eq_error {e : FileError} : ∀ {paths : List Path}, t.keepTaken s paths = .error (e, q) →
    q ∈ paths ∧ t.nodeAt? q.route = .error e
  | [], h => by cases h
  | p :: paths, h => by
    rw [keepTaken] at h
    split at h
    · rename_i herror
      cases h
      exact ⟨List.mem_cons_self, herror⟩
    · cases hrest : t.keepTaken s paths with
      | error x =>
        rw [hrest] at h
        cases h
        obtain ⟨hmem, herror⟩ := keepTaken_eq_error hrest
        exact ⟨List.mem_cons_of_mem p hmem, herror⟩
      | ok others =>
        rw [hrest] at h
        cases h
    · obtain ⟨hmem, herror⟩ := keepTaken_eq_error h
      exact ⟨List.mem_cons_of_mem p hmem, herror⟩

/-! ## Walks -/

/-- A directory is walked by listing it and looking up what is listed. -/
theorem walk_of_directory (h : t.nodeAt? p.route = .ok (some (.directory entries))) :
    t.walk s p = Node.entriesListing p entries >>= fun paths =>
      t.keepTaken s (paths.mergeSort fun a b => namesLe a.parts b.parts) := by
  rw [walk, h]

/-- A walk has the paths of files only, and their names lead there from the directory that is walked. -/
theorem mem_walk {files : List Path} (h : t.walk s p = .ok files) (hq : q ∈ files) :
    s.takes q = true ∧ ∃ entries names content, t.nodeAt? p.route = .ok (some (.directory entries)) ∧
      (Node.directory entries).get? names = some (.file content) ∧ q = p.append names ∧
        t.nodeAt? q.route = .ok (some (.file content)) := by
  rcases hnode : t.nodeAt? p.route with e | _ | ⟨content⟩ | ⟨entries⟩
  · rw [walk, hnode] at h
    cases h
  · rw [walk, hnode] at h
    cases h
    cases hq
  · rw [walk, hnode] at h
    cases h
    cases hq
  · rw [walk_of_directory hnode, bind_eq_ok_iff] at h
    obtain ⟨paths, hpaths, hkept⟩ := h
    obtain ⟨-, rfl⟩ := keepTaken_eq_ok_iff.mp hkept
    simp only [List.mem_filter, List.mem_mergeSort, Bool.and_eq_true] at hq
    obtain ⟨hlisted, hfile, htakes⟩ := hq
    have hvalid : validEntries entries = true := valid_of_nodeAt? hnode
    obtain ⟨names, sub, -, hget, rfl⟩ := (Node.mem_entriesListing_iff_below hvalid hpaths).mp hlisted
    obtain ⟨content, hcontent⟩ := isFile_iff.mp hfile
    have hsub := hcontent
    rw [nodeAt?_append hnode hget] at hsub
    split at hsub
    · cases hsub
    · cases hsub
      exact ⟨htakes, entries, names, content, rfl, hget, rfl, hcontent⟩

/-- A directory that can be listed is too deep for a walk if a directory lies just more than so many levels below it. -/
theorem isTooDeep_iff {levels : Nat} {paths : List Path}
    (hnode : t.nodeAt? p.route = .ok (some (.directory entries))) (hpaths : Node.entriesListing p entries = .ok paths) :
    t.isTooDeep levels p = true ↔ ∃ names below, names.length = levels + 1 ∧
      (Node.directory entries).get? names = some (.directory below) := by
  have hvalid : validEntries entries = true := valid_of_nodeAt? hnode
  rw [isTooDeep, hnode, Node.exists_directory_iff hvalid, ← (Node.entriesTooDeep?_iff levels hvalid hpaths).2]
  exact beq_iff_eq

end FileTree

end BracketSpacing
