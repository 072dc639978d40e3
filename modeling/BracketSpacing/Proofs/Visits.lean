import BracketSpacing.Proofs.Itinerary
import BracketSpacing.Proofs.Listing

/-!
# The files that a run comes to

* `Stop.reached`: the stops that a run gets to before one at which it breaks off, and `Stop.files`: the files among them
  that are read.
* `FileTree.visits`: the files that a run visits. Every such path is proper and leads to a file (`Visitable`,
  `visitable_of_mem_visits`).
* `Storage.Writes`, `Storage.IsSound`: files can be written, or nothing goes wrong with them. Then stops are as the tree
  has them (`Storage.IsSound.mark_stops`).
* `FileTree.barrier?`: why a target of a run makes it break off. If none does (`FileTree.Resolves`), it visits the files
  that it reaches, as paths or because a walk finds them (`FileTree.Finds`, `mem_visits_iff`). They do not depend on
  the order and the repetition of its paths (`reaches_congr`).
-/

namespace BracketSpacing

open Text (CodePoint pointsOf)

theorem pointsOf_inj {a b : String} : pointsOf a = pointsOf b ↔ a = b := by
  rw [← Text.string?_eq_some_iff, Text.string?_pointsOf, Option.some_inj]

/-! ## Paths of files -/

/-- A path that a run can take for a file of the tree: it is proper and leads to a file. -/
structure Visitable (t : FileTree) (p : Path) : Prop where
  proper : p.IsProper
  not_hasNul : p.route.hasNul = false
  leads : ∃ names content, t.fileAt p.route = .ok (names, content)

variable {t : FileTree} {s : Scope} {p base : Path} {stop : Stop} {stops : List Stop} {mishap : Option Mishap}
  {storage : Storage}

theorem visitable_of_nodeAt? {content : List UInt8} (hproper : p.IsProper)
    (h : t.nodeAt? p.route = .ok (some (.file content))) : Visitable t p := by
  obtain ⟨hnul, names, hlocate, hget⟩ := FileTree.nodeAt?_eq_some h
  exact ⟨hproper, hnul, names, content, FileTree.fileAt_eq_ok hlocate hget⟩

/-- The files of a walk can be taken for files. -/
theorem visitable_of_mem_walk {s : Selection} {files : List Path} (hbase : base.IsProper)
    (hwalk : t.walk s base = .ok files) (h : p ∈ files) : Visitable t p := by
  obtain ⟨-, entries, names, content, hnode, hget, rfl, hfile⟩ := FileTree.mem_walk hwalk h
  have hnames := Node.isEntryName_of_get? (FileTree.valid_of_nodeAt? hnode) hget
  exact visitable_of_nodeAt? (hbase.append fun name hname => Path.isComponent_of_isEntryName (hnames name hname)) hfile

/-! ## Stops of a tree -/

namespace FileTree

/-- Whether a walk that is not too deep finds the file at the path. -/
def Finds (t : FileTree) (s : Scope) (base p : Path) : Prop :=
  t.isTooDeep s.levels base = false ∧ ∃ files, t.walk s.toSelection base = .ok files ∧ p ∈ files

theorem file_mem_stopsWithin_iff {shown : String} :
    .file mishap p ∈ t.stopsWithin s shown base ↔ mishap = none ∧ t.Finds s base p := by
  rw [stopsWithin, Finds]
  cases t.isTooDeep s.levels base with
  | true => simp
  | false =>
    rcases t.walk s.toSelection base with ⟨e, q⟩ | files
    · simp
    · simp [and_comm, eq_comm]

/-- There is nothing to walk but directories. -/
theorem not_finds_of_nodeAt? {found : Option Node} (h : t.nodeAt? base.route = .ok found)
    (hfound : ∀ entries, found ≠ some (.directory entries)) : ¬t.Finds s base p := by
  rintro ⟨-, files, hwalk, hp⟩
  obtain ⟨-, entries, -, -, hnode, -⟩ := mem_walk hwalk hp
  rw [h] at hnode
  exact hfound entries (Except.ok.inj hnode)

theorem not_finds_of_error {e : FileError} (h : t.nodeAt? base.route = .error e) : ¬t.Finds s base p := by
  rintro ⟨-, files, hwalk, -⟩
  rw [walk, h] at hwalk
  cases hwalk

theorem file_mem_stopsNamed_iff {path : String} : .file mishap p ∈ t.stopsNamed s path ↔ mishap = none ∧
    ((p = Path.ofString path ∧ ∃ content, t.nodeAt? (Path.ofString path).route = .ok (some (.file content))) ∨
      t.Finds s (.ofString path) p) := by
  rw [stopsNamed]
  rcases h : t.nodeAt? (Path.ofString path).route with e | _ | ⟨content⟩ | ⟨entries⟩
  · simpa using fun _ => not_finds_of_error h
  · simpa using fun _ => not_finds_of_nodeAt? h (by simp)
  · simp [not_finds_of_nodeAt? h (by simp)]
  · simp [file_mem_stopsWithin_iff]

theorem file_mem_stopsBelow_iff {path : String} :
    .file mishap p ∈ t.stopsBelow s path ↔ mishap = none ∧ t.Finds s (.ofString path) p := by
  rw [stopsBelow]
  rcases h : t.nodeAt? (Path.ofString path).route with e | _ | ⟨content⟩ | ⟨entries⟩
  · simpa using fun _ => not_finds_of_error h
  · simpa using fun _ => not_finds_of_nodeAt? h (by simp)
  · simpa using fun _ => not_finds_of_nodeAt? h (by simp)
  · exact file_mem_stopsWithin_iff

theorem file_mem_stopsSelected_iff {name : List CodePoint} : .file mishap p ∈ t.stopsSelected s name ↔ mishap = none ∧
    ∃ path, pointsOf path = name ∧ t.Finds s (.ofString path) p := by
  rw [stopsSelected]
  cases h : Text.string? name with
  | some path =>
    obtain rfl := Text.string?_eq_some_iff.mp h
    simp [file_mem_stopsBelow_iff, pointsOf_inj]
  | none =>
    have hnone : ∀ path, pointsOf path ≠ name := by
      rintro path rfl
      simp at h
    simp only [hnone, false_and, exists_false, and_false, iff_false]
    split <;> simp

/-- Every file among the stops can be taken for a file, and nothing is said about what goes wrong with it. -/
theorem of_file_mem_stops {paths : List String} (h : .file mishap p ∈ t.stops s paths) :
    mishap = none ∧ Visitable t p := by
  rw [stops] at h
  split at h
  · obtain ⟨name, -, h⟩ := List.mem_flatMap.mp h
    obtain ⟨hnone, path, -, -, files, hwalk, hp⟩ := file_mem_stopsSelected_iff.mp h
    exact ⟨hnone, visitable_of_mem_walk (Path.isProper_ofString path) hwalk hp⟩
  · obtain ⟨path, -, h⟩ := List.mem_flatMap.mp h
    have hproper := Path.isProper_ofString path
    obtain ⟨hnone, ⟨rfl, content, hnode⟩ | ⟨-, files, hwalk, hp⟩⟩ := file_mem_stopsNamed_iff.mp h
    · exact ⟨hnone, visitable_of_nodeAt? hproper hnode⟩
    · exact ⟨hnone, visitable_of_mem_walk hproper hwalk hp⟩

end FileTree

/-! ## Storage -/

namespace Storage

/-- All files can be written. -/
def Writes (storage : Storage) : Prop :=
  ∀ k e left, storage.mishap? k ≠ some (.unwritable e left)

/-- Nothing goes wrong with any file. -/
def IsSound (storage : Storage) : Prop :=
  ∀ k, storage.mishap? k = none

theorem isSound_default : IsSound {} :=
  fun _ => rfl

theorem IsSound.writes (h : storage.IsSound) : storage.Writes := by
  intro k e left hmishap
  rw [h k] at hmishap
  cases hmishap

/-- A stop with what goes wrong with its file is a stop of the tree apart from that. -/
theorem exists_of_mem_mark : ∀ {k : Nat} {stops : List Stop}, stop ∈ storage.mark k stops →
    ∃ j, ∃ original ∈ stops, original.amid (storage.mishap? j) = stop
  | _, [], h => by cases h
  | k, first :: stops, h => by
    rcases List.mem_cons.mp h with rfl | h
    · exact ⟨k, first, List.mem_cons_self, rfl⟩
    · obtain ⟨j, original, hmem, hstop⟩ := exists_of_mem_mark h
      exact ⟨j, original, List.mem_cons_of_mem first hmem, hstop⟩

theorem exists_of_file_mem_mark {k : Nat} (h : .file mishap p ∈ storage.mark k stops) :
    ∃ j, mishap = storage.mishap? j ∧ ∃ m, .file m p ∈ stops := by
  obtain ⟨j, original, hmem, hstop⟩ := exists_of_mem_mark h
  cases original with
  | file m q =>
    cases hstop
    exact ⟨j, rfl, m, hmem⟩
  | _ => cases hstop

/-- Where nothing goes wrong with files, the stops are as the tree has them. -/
theorem IsSound.mark_stops (h : storage.IsSound) (k : Nat) (paths : List String) :
    storage.mark k (t.stops s paths) = t.stops s paths := by
  have hsame : ∀ stops, (∀ stop ∈ stops, stop.amid none = stop) → ∀ k, storage.mark k stops = stops := by
    intro stops
    induction stops with
    | nil => exact fun _ _ => rfl
    | cons stop stops ih =>
      intro hstops k
      rw [List.forall_mem_cons] at hstops
      rw [mark, h k, hstops.1, ih hstops.2]
  refine hsame _ (fun stop hstop => ?_) k
  cases stop with
  | file mishap p => rw [(FileTree.of_file_mem_stops hstop).1]; rfl
  | _ => rfl

end Storage

/-! ## Files in the order of their visits -/

namespace Stop

/-- Why a run breaks off at the stop, if it does. -/
def abort? : Stop → Option Abort
  | barred a => some a
  | _ => none

/-- The files that are read at the stop. -/
def read : Stop → List Path
  | file (some (.unreadable _)) _ => []
  | file _ p => [p]
  | _ => []

/-- The stops that a run gets to before one at which it breaks off. -/
def reached (stops : List Stop) : List Stop :=
  stops.takeWhile fun stop => stop.abort?.isNone

/-- The files that are read at stops, as far as a run gets. -/
def files (stops : List Stop) : List Path :=
  (reached stops).flatMap read

theorem reached_cons_of_isNone (h : stop.abort? = none) (stops : List Stop) :
    reached (stop :: stops) = stop :: reached stops := by
  simp [reached, h]

theorem files_cons_of_isNone (h : stop.abort? = none) (stops : List Stop) :
    files (stop :: stops) = stop.read ++ files stops := by
  rw [files, reached_cons_of_isNone h, List.flatMap_cons, files]

theorem mem_read_iff : p ∈ stop.read ↔ ∃ m, stop = .file m p ∧ ∀ e, m ≠ some (.unreadable e) := by
  rcases stop with ⟨_ | ⟨e⟩ | ⟨e, left⟩, q⟩ | _ | _ | _ | _ <;> simp [read, eq_comm]

theorem exists_mem_of_mem_files (h : p ∈ files stops) : ∃ m, .file m p ∈ stops := by
  obtain ⟨stop, hstop, hp⟩ := List.mem_flatMap.mp h
  obtain ⟨m, rfl, -⟩ := mem_read_iff.mp hp
  exact ⟨m, List.takeWhile_subset _ hstop⟩

@[simp] theorem abort?_amid (mishap : Option Mishap) (stop : Stop) : (stop.amid mishap).abort? = stop.abort? := by
  cases stop <;> rfl

/-- A run that does not break off gets to all stops. -/
theorem reached_of_isNone (h : ∀ stop ∈ stops, stop.abort? = none) : reached stops = stops :=
  List.takeWhile_eq_self_iff.mpr fun stop hstop => by rw [h stop hstop]; rfl

end Stop

namespace Storage

/-- Where a run breaks off has nothing to do with its files. -/
theorem findSome?_abort?_mark : ∀ (k : Nat) (stops : List Stop),
    (storage.mark k stops).findSome? Stop.abort? = stops.findSome? Stop.abort?
  | _, [] => rfl
  | k, stop :: stops => by
    rw [mark, List.findSome?_cons, List.findSome?_cons, Stop.abort?_amid, findSome?_abort?_mark]

/-- Files that cannot be read are left out. -/
theorem files_mark_sublist (storage : Storage) : ∀ (k : Nat) (stops : List Stop),
    (∀ m p, .file m p ∈ stops → m = none) → (Stop.files (storage.mark k stops)).Sublist (Stop.files stops)
  | _, [], _ => .slnil
  | k, stop :: stops, h => by
    have ih := storage.files_mark_sublist (k + stop.begun.length) stops
      fun m p hp => h m p (List.mem_cons_of_mem stop hp)
    rw [mark]
    cases stop with
    | file m p =>
      obtain rfl := h m p List.mem_cons_self
      rw [Stop.files_cons_of_isNone rfl, Stop.files_cons_of_isNone rfl]
      refine .append ?_ ih
      rcases hmishap : storage.mishap? k with _ | ⟨e⟩ | ⟨e, left⟩
      · exact .refl _
      · exact List.nil_sublist _
      · exact .refl _
    | barred a => exact .slnil
    | _ => exact ih

end Storage

/-- The files that a run visits, in order and with repetitions. -/
def FileTree.visits (t : FileTree) (s : Scope) (paths : List String) : List Path :=
  Stop.files (t.stops s paths)

theorem visitable_of_mem_visits {paths : List String} (h : p ∈ t.visits s paths) : Visitable t p := by
  obtain ⟨m, hm⟩ := Stop.exists_mem_of_mem_files h
  exact (FileTree.of_file_mem_stops hm).2

/-! ## Targets -/

/-- The names of the paths that a run goes to: those that it is given, or the directories of the selection if there are
none. -/
def Scope.targets (s : Scope) (paths : List String) : List (List CodePoint) :=
  if paths.isEmpty then s.directories else paths.map pointsOf

namespace FileTree

variable {paths : List String}

/-- Why a run breaks off at a target, if it does: of a text cannot be told whether it is there, or directories below it
lie too deep; that what is no text is not there cannot be said. -/
def barrier? (t : FileTree) (s : Scope) (target : List CodePoint) : Option Abort :=
  match Text.string? target with
  | some path =>
    match t.nodeAt? (Path.ofString path).route with
    | .error e => some (.unreachable e (pointsOf (Path.ofString path).text))
    | .ok _ => if t.isTooDeep s.levels (.ofString path) then some .tooDeep else none
  | none =>
    match t.overlong? target with
    | some path => some (.unreachable .nameTooLong path)
    | none => some (.unprintable (pointsOf (Notice.directoryNotFound "").text ++ target))

/-- Whether every target of a run is a text of which can be told whether it is there, and no directories below it lie
too deep. -/
def Resolves (t : FileTree) (s : Scope) (paths : List String) : Prop :=
  ∀ target ∈ s.targets paths, ∃ path found, pointsOf path = target ∧
    t.nodeAt? (Path.ofString path).route = .ok found ∧ t.isTooDeep s.levels (.ofString path) = false

/-- Whether a run reaches a file at the path: the path is one that it is given, or found by a walk. -/
def Reaches (t : FileTree) (s : Scope) (paths : List String) (p : Path) : Prop :=
  (∃ path ∈ paths, p = Path.ofString path ∧
      ∃ content, t.nodeAt? (Path.ofString path).route = .ok (some (.file content))) ∨
    ∃ path, pointsOf path ∈ s.targets paths ∧ t.Finds s (.ofString path) p

theorem barrier?_pointsOf (t : FileTree) (s : Scope) (path : String) : t.barrier? s (pointsOf path) =
    match t.nodeAt? (Path.ofString path).route with
    | .error e => some (.unreachable e (pointsOf (Path.ofString path).text))
    | .ok _ => if t.isTooDeep s.levels (.ofString path) then some .tooDeep else none := by
  rw [barrier?, Text.string?_pointsOf]

theorem barrier?_eq_none_iff {target : List CodePoint} : t.barrier? s target = none ↔
    ∃ path found, pointsOf path = target ∧ t.nodeAt? (Path.ofString path).route = .ok found ∧
      t.isTooDeep s.levels (.ofString path) = false := by
  cases h : Text.string? target with
  | some path =>
    obtain rfl := Text.string?_eq_some_iff.mp h
    simp only [exists_and_left, pointsOf_inj, exists_eq_left, barrier?_pointsOf]
    cases t.nodeAt? (Path.ofString path).route <;> simp
  | none =>
    rw [barrier?, h]
    have hnone : ∀ path, pointsOf path ≠ target := by
      rintro path rfl
      simp at h
    simp only [hnone, false_and, exists_false, iff_false]
    cases t.overlong? target <;> simp

theorem findSome?_stopsWithin (shown : String) : (t.stopsWithin s shown base).findSome? Stop.abort? =
    if t.isTooDeep s.levels base then some .tooDeep else none := by
  rw [stopsWithin]
  split
  · rfl
  · rw [List.findSome?_eq_none_iff]
    rcases t.walk s.toSelection base with ⟨e, q⟩ | files <;> simp [Stop.abort?]

/-- What is no directory is not too deep. -/
theorem isTooDeep_of_nodeAt? {levels : Nat} {found : Option Node} (h : t.nodeAt? base.route = .ok found)
    (hfound : ∀ entries, found ≠ some (.directory entries)) : t.isTooDeep levels base = false := by
  rw [isTooDeep, h]
  rcases found with _ | ⟨content⟩ | ⟨entries⟩
  · rfl
  · rfl
  · exact absurd rfl (hfound entries)

theorem findSome?_stopsNamed (path : String) :
    (t.stopsNamed s path).findSome? Stop.abort? = t.barrier? s (pointsOf path) := by
  rw [stopsNamed, barrier?_pointsOf]
  rcases h : t.nodeAt? (Path.ofString path).route with e | _ | ⟨content⟩ | ⟨entries⟩
  · rfl
  · simp [isTooDeep_of_nodeAt? h, Stop.abort?]
  · simp [isTooDeep_of_nodeAt? h, Stop.abort?]
  · exact findSome?_stopsWithin _

theorem findSome?_stopsBelow (path : String) :
    (t.stopsBelow s path).findSome? Stop.abort? = t.barrier? s (pointsOf path) := by
  rw [stopsBelow, barrier?_pointsOf]
  rcases h : t.nodeAt? (Path.ofString path).route with e | _ | ⟨content⟩ | ⟨entries⟩
  · rfl
  · simp [isTooDeep_of_nodeAt? h, Stop.abort?]
  · simp [isTooDeep_of_nodeAt? h, Stop.abort?]
  · exact findSome?_stopsWithin _

theorem findSome?_stopsSelected (name : List CodePoint) :
    (t.stopsSelected s name).findSome? Stop.abort? = t.barrier? s name := by
  rw [stopsSelected]
  cases h : Text.string? name with
  | some path =>
    obtain rfl := Text.string?_eq_some_iff.mp h
    exact findSome?_stopsBelow path
  | none =>
    rw [barrier?, h]
    cases t.overlong? name <;> rfl

theorem findSome?_flatMap {α : Type} (stopsAt : α → List Stop) : ∀ l : List α,
    (l.flatMap stopsAt).findSome? Stop.abort? = l.findSome? fun a => (stopsAt a).findSome? Stop.abort?
  | [] => rfl
  | a :: l => by
    rw [List.flatMap_cons, List.findSome?_append, List.findSome?_cons, findSome?_flatMap stopsAt l]
    cases (stopsAt a).findSome? Stop.abort? <;> rfl

/-- A run breaks off at the first target where there is a reason to. -/
theorem findSome?_stops (t : FileTree) (s : Scope) (paths : List String) :
    (t.stops s paths).findSome? Stop.abort? = (s.targets paths).findSome? (t.barrier? s) := by
  rw [stops, Scope.targets]
  split
  · rw [findSome?_flatMap, funext findSome?_stopsSelected]
  · rw [findSome?_flatMap, funext findSome?_stopsNamed, List.findSome?_map]
    rfl

/-- All targets can be told of exactly if there is no stop at which a run breaks off. -/
theorem resolves_iff : t.Resolves s paths ↔ (t.stops s paths).findSome? Stop.abort? = none := by
  rw [findSome?_stops, List.findSome?_eq_none_iff, Resolves]
  simp only [barrier?_eq_none_iff]

/-- A run that does not break off visits the files that it reaches. -/
theorem mem_visits_iff (h : t.Resolves s paths) : p ∈ t.visits s paths ↔ t.Reaches s paths p := by
  have hvisits : p ∈ t.visits s paths ↔ .file none p ∈ t.stops s paths := by
    rw [visits, Stop.files, Stop.reached_of_isNone (List.findSome?_eq_none_iff.mp (resolves_iff.mp h)),
      List.mem_flatMap]
    constructor
    · rintro ⟨stop, hstop, hp⟩
      obtain ⟨m, rfl, -⟩ := Stop.mem_read_iff.mp hp
      rwa [(of_file_mem_stops hstop).1] at hstop
    · exact fun hp => ⟨_, hp, List.mem_singleton_self p⟩
  rw [hvisits, stops, Reaches, Scope.targets]
  split
  · rename_i hempty
    simp only [List.isEmpty_iff.mp hempty, List.mem_flatMap, file_mem_stopsSelected_iff, List.not_mem_nil, false_and,
      exists_false, false_or, true_and]
    constructor
    · rintro ⟨name, hname, path, rfl, hwalk⟩
      exact ⟨path, hname, hwalk⟩
    · rintro ⟨path, hname, hwalk⟩
      exact ⟨_, hname, path, rfl, hwalk⟩
  · simp only [List.mem_flatMap, file_mem_stopsNamed_iff, true_and, and_or_left, exists_or, List.mem_map, pointsOf_inj,
      exists_eq_right]

theorem mem_targets_congr {others : List String} (h : ∀ path, path ∈ others ↔ path ∈ paths) (s : Scope)
    (target : List CodePoint) : target ∈ s.targets others ↔ target ∈ s.targets paths := by
  have hempty : others.isEmpty = paths.isEmpty := by
    rw [Bool.eq_iff_iff, List.isEmpty_iff, List.isEmpty_iff, List.eq_nil_iff_forall_not_mem,
      List.eq_nil_iff_forall_not_mem]
    exact forall_congr' fun path => not_congr (h path)
  rw [Scope.targets, Scope.targets, hempty]
  split
  · rfl
  · simp only [List.mem_map, h]

theorem resolves_congr {others : List String} (h : ∀ path, path ∈ others ↔ path ∈ paths) :
    t.Resolves s others ↔ t.Resolves s paths := by
  simp only [Resolves, mem_targets_congr h]

/-- The order and the repetition of paths do not matter for what is reached. -/
theorem reaches_congr {others : List String} (h : ∀ path, path ∈ others ↔ path ∈ paths) :
    t.Reaches s others p ↔ t.Reaches s paths p := by
  simp only [Reaches, mem_targets_congr h, h]

end FileTree

end BracketSpacing
