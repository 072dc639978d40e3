import Mathlib
import BracketSpacing.Run.Basic
import BracketSpacing.Proofs.Contents
import BracketSpacing.Proofs.Naming

/-!
# Where a run goes

* `Stop`: what a run comes to at one of its paths. `Run.visit` is what is done there.
* `FileTree.stops`: all stops of a run in their order, repeated ones included. They depend on which files and
  directories there are and not on the bytes in files (`stops_mapFiles`).
* `Storage.mark`: the stops of a run with what goes wrong with their files. `Run.visitAll` makes them.
* A run changes bytes in files at most (`keeps_visitAll`), so it makes the stops that the tree has at its start
  (`run_eq_visitAll`).
-/

namespace BracketSpacing

open Text (CodePoint pointsOf)

/-- What a run comes to. -/
inductive Stop where
  /-- A file to normalize, and what goes wrong with it. -/
  | file (mishap : Option Mishap) (p : Path)
  /-- A directory that may be missing, and is. -/
  | absent (path : String)
  /-- A path that must be there, and is not. -/
  | missing (path : String)
  /-- A directory that cannot be walked, and the path that keeps it from being walked. -/
  | unlisted (shown : String) (e : FileError) (p : Path)
  /-- A path at which a run breaks off. -/
  | barred (a : Abort)

namespace Stop

/-- The stop with what goes wrong with its file, if it is one. -/
def amid (mishap : Option Mishap) : Stop → Stop
  | file _ p => file mishap p
  | stop => stop

/-- The files that a run starts on at the stop. -/
def begun : Stop → List Path
  | file _ p => [p]
  | _ => []

theorem begun_amid (mishap : Option Mishap) (stop : Stop) : (stop.amid mishap).begun = stop.begun := by
  cases stop <;> rfl

end Stop

/-- The stops with what goes wrong with their files, of which the first is the one with the given number. -/
def Storage.mark (storage : Storage) : Nat → List Stop → List Stop
  | _, [] => []
  | k, stop :: stops => stop.amid (storage.mishap? k) :: storage.mark (k + stop.begun.length) stops

namespace FileTree

/-- The stops below a directory, which notices name by `shown`: the files there, if it can be walked. -/
def stopsWithin (t : FileTree) (s : Scope) (shown : String) (p : Path) : List Stop :=
  if t.isTooDeep s.levels p then [.barred .tooDeep]
  else
    match t.walk s.toSelection p with
    | .ok files => files.map (.file none)
    | .error (e, q) => [.unlisted shown e q]

/-- The stops at a path that must be there: itself if it is a file, or those below it. -/
def stopsNamed (t : FileTree) (s : Scope) (path : String) : List Stop :=
  let p := Path.ofString path
  match t.nodeAt? p.route with
  | .error e => [.barred (.unreachable e (pointsOf p.text))]
  | .ok none => [.missing path]
  | .ok (some (.directory _)) => t.stopsWithin s p.text p
  | .ok (some (.file _)) => [.file none p]

/-- The stops at a directory that may be missing. -/
def stopsBelow (t : FileTree) (s : Scope) (path : String) : List Stop :=
  let p := Path.ofString path
  match t.nodeAt? p.route with
  | .error e => [.barred (.unreachable e (pointsOf p.text))]
  | .ok (some (.directory _)) => t.stopsWithin s path p
  | .ok _ => [.absent path]

/-- The stops at a directory of a selection. -/
def stopsSelected (t : FileTree) (s : Scope) (name : List CodePoint) : List Stop :=
  match Text.string? name with
  | some path => t.stopsBelow s path
  | none =>
    match t.overlong? name with
    | some path => [.barred (.unreachable .nameTooLong path)]
    | none => [.barred (.unprintable (pointsOf (Notice.directoryNotFound "").text ++ name))]

/-- All stops of a run over the given paths, or over the directories of the selection if no path is given. -/
def stops (t : FileTree) (s : Scope) (paths : List String) : List Stop :=
  if paths.isEmpty then s.directories.flatMap (t.stopsSelected s) else paths.flatMap (t.stopsNamed s)

end FileTree

namespace Run

/-- What is done at a stop. -/
def visit (o : RunOptions) : Stop → Run → Except Abort Bool × Run
  | .file mishap p, r => (r.startOn p).processFileAmid o mishap p
  | .absent path, r => (.ok true, r.say (.directoryNotFound path))
  | .missing path, r => (.ok false, r.fail path (.pathNotFound path))
  | .unlisted shown e q, r => (.ok false, r.say (.directoryFailed shown e q.text))
  | .barred a, r => (.error a, r)

/-- All that a run does at stops. -/
def visitAll (o : RunOptions) (stops : List Stop) (r : Run) : Except Abort Bool × Run :=
  processAll (visit o) (o.storage.mark r.begun.length stops) r

end Run

/-! ## Stops do not depend on bytes -/

namespace Node

mutual

theorem listing_mapFiles : ∀ (f : List String → List UInt8 → List UInt8) (p : Path) (node : Node),
    (node.mapFiles f).listing p = node.listing p
  | _, _, .file _ => rfl
  | f, p, .directory entries => by rw [mapFiles, listing, listing, entriesListing_mapEntries f p entries]

theorem entriesListing_mapEntries : ∀ (f : List String → List UInt8 → List UInt8) (p : Path)
    (entries : List (String × Node)), entriesListing p (mapEntries f entries) = entriesListing p entries
  | _, _, [] => rfl
  | f, p, (name, node) :: entries => by
    rw [mapEntries, entriesListing, entriesListing, listing_mapFiles _ _ node, entriesListing_mapEntries f p entries]

end

mutual

theorem tooDeep?_mapFiles : ∀ (f : List String → List UInt8 → List UInt8) (levels : Nat) (p : Path) (node : Node),
    (node.mapFiles f).tooDeep? levels p = node.tooDeep? levels p
  | _, _, _, .file _ => rfl
  | _, 0, _, .directory _ => rfl
  | f, levels + 1, p, .directory entries => by
    rw [mapFiles, tooDeep?, tooDeep?, entriesTooDeep?_mapEntries f levels p entries]

theorem entriesTooDeep?_mapEntries : ∀ (f : List String → List UInt8 → List UInt8) (levels : Nat) (p : Path)
    (entries : List (String × Node)), entriesTooDeep? levels p (mapEntries f entries) = entriesTooDeep? levels p entries
  | _, _, _, [] => rfl
  | f, levels, p, (name, node) :: entries => by
    rw [mapEntries, entriesTooDeep?, entriesTooDeep?, tooDeep?_mapFiles _ levels _ node,
      entriesTooDeep?_mapEntries f levels p entries]

end

end Node

namespace FileTree

variable (f : List String → List UInt8 → List UInt8) (t : FileTree) (s : Scope)

theorem keepTaken_mapFiles (s : Selection) : ∀ paths, (t.mapFiles f).keepTaken s paths = t.keepTaken s paths
  | [] => rfl
  | p :: paths => by
    obtain ⟨g, hg⟩ := nodeAt?_mapFiles f t p.route
    rw [keepTaken, keepTaken, hg, keepTaken_mapFiles s paths]
    rcases t.nodeAt? p.route with e | _ | ⟨content⟩ | ⟨entries⟩ <;> rfl

/-- A walk finds the same files. -/
theorem walk_mapFiles (s : Selection) (p : Path) : (t.mapFiles f).walk s p = t.walk s p := by
  obtain ⟨g, hg⟩ := nodeAt?_mapFiles f t p.route
  rw [walk, walk, hg, funext (keepTaken_mapFiles f t s)]
  rcases t.nodeAt? p.route with e | _ | ⟨content⟩ | ⟨entries⟩
  · rfl
  · rfl
  · rfl
  · exact congrArg (· >>= _) (Node.entriesListing_mapEntries g p entries)

/-- And it finds no more directories too deep. -/
theorem isTooDeep_mapFiles (levels : Nat) (p : Path) : (t.mapFiles f).isTooDeep levels p = t.isTooDeep levels p := by
  obtain ⟨g, hg⟩ := nodeAt?_mapFiles f t p.route
  rw [isTooDeep, isTooDeep, hg]
  rcases t.nodeAt? p.route with e | _ | ⟨content⟩ | ⟨entries⟩
  · rfl
  · rfl
  · rfl
  · exact congrArg (· == some true) (Node.entriesTooDeep?_mapEntries g levels p entries)

theorem stopsWithin_mapFiles (shown : String) (p : Path) :
    (t.mapFiles f).stopsWithin s shown p = t.stopsWithin s shown p := by
  rw [stopsWithin, stopsWithin, isTooDeep_mapFiles, walk_mapFiles]

theorem stopsNamed_mapFiles (path : String) : (t.mapFiles f).stopsNamed s path = t.stopsNamed s path := by
  obtain ⟨g, hg⟩ := nodeAt?_mapFiles f t (Path.ofString path).route
  rw [stopsNamed, stopsNamed, hg]
  rcases t.nodeAt? (Path.ofString path).route with e | _ | ⟨content⟩ | ⟨entries⟩
  · rfl
  · rfl
  · rfl
  · exact stopsWithin_mapFiles f t s _ _

theorem stopsBelow_mapFiles (path : String) : (t.mapFiles f).stopsBelow s path = t.stopsBelow s path := by
  obtain ⟨g, hg⟩ := nodeAt?_mapFiles f t (Path.ofString path).route
  rw [stopsBelow, stopsBelow, hg]
  rcases t.nodeAt? (Path.ofString path).route with e | _ | ⟨content⟩ | ⟨entries⟩
  · rfl
  · rfl
  · rfl
  · exact stopsWithin_mapFiles f t s _ _

theorem overlong?_mapFiles (name : List CodePoint) : (t.mapFiles f).overlong? name = t.overlong? name := by
  simp only [overlong?, locate_mapFiles]

theorem stopsSelected_mapFiles (name : List CodePoint) :
    (t.mapFiles f).stopsSelected s name = t.stopsSelected s name := by
  rw [stopsSelected, stopsSelected, funext (stopsBelow_mapFiles f t s), overlong?_mapFiles]

/-- Other bytes make no other stops. -/
theorem stops_mapFiles (paths : List String) : (t.mapFiles f).stops s paths = t.stops s paths := by
  rw [stops, stops, funext (stopsNamed_mapFiles f t s), funext (stopsSelected_mapFiles f t s)]

theorem setFile_eq_mapFiles (names : List String) (content : List UInt8) :
    t.setFile names content = t.mapFiles fun other old => if other = names then content else old := by
  have h := setFile_mapFiles (fun _ old => old) t names content
  rwa [mapFiles_id] at h

end FileTree

/-! ## Runs make stops -/

namespace Run

variable {α : Type} {o : RunOptions} {r : Run}

/-! ### One step after the other -/

/-- One step, and the next one unless it breaks off. All goes well if both do. -/
def andThen (first : Except Abort Bool × Run) (next : Run → Except Abort Bool × Run) : Except Abort Bool × Run :=
  match first.1 with
  | .error e => (.error e, first.2)
  | .ok ok => ((next first.2).1.map (ok && ·), (next first.2).2)

theorem andThen_error (e : Abort) (r : Run) (next : Run → Except Abort Bool × Run) :
    andThen (.error e, r) next = (.error e, r) := rfl

theorem andThen_ok (ok : Bool) (r : Run) (next : Run → Except Abort Bool × Run) :
    andThen (.ok ok, r) next = ((next r).1.map (ok && ·), (next r).2) := rfl

theorem andThen_true (r : Run) (next : Run → Except Abort Bool × Run) : andThen (.ok true, r) next = next r := by
  rw [andThen_ok]
  rcases next r with ⟨e | ok, r'⟩ <;> rfl

theorem andThen_assoc (first : Except Abort Bool × Run) (second third : Run → Except Abort Bool × Run) :
    andThen (andThen first second) third = andThen first fun r => andThen (second r) third := by
  rcases first with ⟨e | ok, r⟩
  · rfl
  · simp only [andThen_ok]
    rcases second r with ⟨e | others, r'⟩
    · rfl
    · simp only [Except.map, andThen_ok]
      rcases third r' with ⟨e | more, r''⟩
      · rfl
      · simp only [Bool.and_assoc]

theorem processAll_cons (step : α → Run → Except Abort Bool × Run) (a : α) (l : List α) (r : Run) :
    processAll step (a :: l) r = andThen (step a r) (processAll step l) := by
  rw [processAll]
  rcases step a r with ⟨e | ok, r'⟩
  · rfl
  · simp only [andThen_ok]
    rcases processAll step l r' with ⟨e | others, r''⟩ <;> rfl

theorem processAll_singleton (step : α → Run → Except Abort Bool × Run) (a : α) (r : Run) :
    processAll step [a] r = step a r := by
  rw [processAll_cons]
  rcases step a r with ⟨e | ok, r'⟩
  · rfl
  · simp [andThen_ok, processAll, Except.map]

/-! ### What stays as it is -/

/-- A run whose tree differs from `t` in the bytes of files at most. -/
def Keeps (t : FileTree) (r : Run) : Prop :=
  ∃ f, r.tree = t.mapFiles f

theorem keeps_of_eq {t : FileTree} {r : Run} (h : r.tree = t) : Keeps t r :=
  ⟨_, h.trans (FileTree.mapFiles_id t).symm⟩

theorem Keeps.trans {t : FileTree} {r r' : Run} (h : Keeps t r) (h' : Keeps r.tree r') : Keeps t r' := by
  obtain ⟨f, hf⟩ := h
  obtain ⟨g, hg⟩ := h'
  exact ⟨_, by rw [hg, hf, FileTree.mapFiles_mapFiles]⟩

theorem tree_report (r : Run) (o : RunOptions) (n : Notice) : (r.report o n).tree = r.tree := by
  unfold report
  split <;> rfl

theorem begun_report (r : Run) (o : RunOptions) (n : Notice) : (r.report o n).begun = r.begun := by
  unfold report
  split <;> rfl

/-- The bytes of a file that a text is to be written to. -/
def bytesAmid (mishap : Option Mishap) (text : List Char) : List UInt8 :=
  match mishap with
  | some (.unwritable _ left) => left
  | _ => Text.Utf8.encode text

theorem tree_rewriteFile (o : RunOptions) (mishap : Option Mishap) (p : Path) (names : List String)
    (text : List Char) (r : Run) :
    (r.rewriteFile o mishap p names text).2.tree = r.tree.setFile names (bytesAmid mishap text) := by
  rcases mishap with _ | ⟨e⟩ | ⟨e, left⟩
  · exact tree_report _ o _
  · exact tree_report _ o _
  · rfl

theorem begun_rewriteFile (o : RunOptions) (mishap : Option Mishap) (p : Path) (names : List String)
    (text : List Char) (r : Run) : (r.rewriteFile o mishap p names text).2.begun = r.begun := by
  rcases mishap with _ | ⟨e⟩ | ⟨e, left⟩
  · exact begun_report _ o _
  · exact begun_report _ o _
  · rfl

/-- The run after the passes over a file have been told of. -/
theorem tree_settled (outcome : Outcome) (p : Path) (r : Run) :
    (if outcome.converged then r else r.noteUnsettled p.text outcome.passes).tree = r.tree := by
  split <;> rfl

/-- The tree after an outcome has other bytes in the file if its text is changed and is to be written. -/
theorem tree_conclude (o : RunOptions) (mishap : Option Mishap) (p : Path) (names : List String) (outcome : Outcome)
    (r : Run) : (r.conclude o mishap p names outcome).2.tree =
      if outcome.changed = true ∧ o.dryRun = false then r.tree.setFile names (bytesAmid mishap outcome.text)
      else r.tree := by
  have hsettled := tree_settled outcome p r
  simp only [conclude]
  cases outcome.changed with
  | false => simp [tree_report, hsettled]
  | true =>
    cases o.dryRun with
    | true => simp [tree_report, noteChanged, hsettled]
    | false => simp [tree_rewriteFile, noteChanged, hsettled]

theorem begun_conclude (o : RunOptions) (mishap : Option Mishap) (p : Path) (names : List String) (outcome : Outcome)
    (r : Run) : (r.conclude o mishap p names outcome).2.begun = r.begun := by
  have hsettled : (if outcome.converged then r else r.noteUnsettled p.text outcome.passes).begun = r.begun := by
    split <;> rfl
  simp only [conclude]
  split
  · exact (begun_report _ o _).trans hsettled
  · split
    · exact (begun_report _ o _).trans hsettled
    · exact (begun_rewriteFile o mishap p names outcome.text _).trans hsettled

theorem keeps_conclude (o : RunOptions) (mishap : Option Mishap) (p : Path) (names : List String) (outcome : Outcome)
    (r : Run) : Keeps r.tree (r.conclude o mishap p names outcome).2 := by
  rw [Keeps, tree_conclude]
  split
  · exact ⟨_, FileTree.setFile_eq_mapFiles r.tree names _⟩
  · exact ⟨_, (FileTree.mapFiles_id r.tree).symm⟩

theorem keeps_processFileAmid (o : RunOptions) (mishap : Option Mishap) (p : Path) (r : Run) :
    Keeps r.tree (r.processFileAmid o mishap p).2 := by
  rw [processFileAmid]
  split
  · exact keeps_of_eq rfl
  · exact keeps_of_eq rfl
  · exact keeps_conclude o mishap p _ _ r.startFile

theorem begun_processFileAmid (o : RunOptions) (mishap : Option Mishap) (p : Path) (r : Run) :
    (r.processFileAmid o mishap p).2.begun = r.begun := by
  rw [processFileAmid]
  split
  · rfl
  · rfl
  · exact begun_conclude o mishap p _ _ r.startFile

/-- What is done at a stop changes bytes in files at most. -/
theorem keeps_visit (o : RunOptions) (stop : Stop) (r : Run) : Keeps r.tree (visit o stop r).2 := by
  cases stop with
  | file mishap p => exact keeps_processFileAmid o mishap p (r.startOn p)
  | absent path => exact keeps_of_eq rfl
  | missing path => exact keeps_of_eq rfl
  | unlisted shown e q => exact keeps_of_eq rfl
  | barred a => exact keeps_of_eq rfl

theorem begun_visit (o : RunOptions) (stop : Stop) (r : Run) : (visit o stop r).2.begun = r.begun ++ stop.begun := by
  cases stop with
  | file mishap p => exact begun_processFileAmid o mishap p (r.startOn p)
  | absent path => exact (List.append_nil r.begun).symm
  | missing path => exact (List.append_nil r.begun).symm
  | unlisted shown e q => exact (List.append_nil r.begun).symm
  | barred a => exact (List.append_nil r.begun).symm

theorem keeps_andThen {t : FileTree} {first : Except Abort Bool × Run} {next : Run → Except Abort Bool × Run}
    (h : Keeps t first.2) (hnext : ∀ r, Keeps r.tree (next r).2) : Keeps t (andThen first next).2 := by
  rcases first with ⟨e | ok, r⟩
  · exact h
  · exact h.trans (hnext r)

/-! ### One stop after the other -/

theorem visitAll_cons (o : RunOptions) (stop : Stop) (stops : List Stop) (r : Run) :
    visitAll o (stop :: stops) r = andThen (visit o (stop.amid (r.mishap? o)) r) (visitAll o stops) := by
  have hbegun := begun_visit o (stop.amid (r.mishap? o)) r
  rw [Stop.begun_amid] at hbegun
  rw [visitAll, Storage.mark, processAll_cons]
  change andThen (visit o (stop.amid (r.mishap? o)) r) _ = _
  rcases hfirst : visit o (stop.amid (r.mishap? o)) r with ⟨e | ok, r'⟩
  · rfl
  · rw [hfirst] at hbegun
    rw [andThen_ok, andThen_ok, visitAll, hbegun, List.length_append]

theorem visitAll_append (o : RunOptions) : ∀ (stops₁ stops₂ : List Stop) (r : Run),
    visitAll o (stops₁ ++ stops₂) r = andThen (visitAll o stops₁ r) (visitAll o stops₂)
  | [], stops₂, r => (andThen_true r (visitAll o stops₂)).symm
  | stop :: stops₁, stops₂, r => by
    rw [List.cons_append, visitAll_cons, visitAll_cons, andThen_assoc,
      funext fun r' => visitAll_append o stops₁ stops₂ r']

theorem visitAll_singleton (o : RunOptions) (stop : Stop) (r : Run) :
    visitAll o [stop] r = visit o (stop.amid (r.mishap? o)) r :=
  processAll_singleton (visit o) _ r

theorem keeps_visitAll (o : RunOptions) : ∀ (stops : List Stop) (r : Run), Keeps r.tree (visitAll o stops r).2
  | [], _ => keeps_of_eq rfl
  | stop :: stops, r => by
    rw [visitAll_cons]
    exact keeps_andThen (keeps_visit o _ r) (keeps_visitAll o stops)

theorem processAll_processFile (o : RunOptions) : ∀ (files : List Path) (r : Run),
    processAll (processFile o) files r = visitAll o (files.map (.file none)) r
  | [], _ => rfl
  | p :: files, r => by
    rw [processAll_cons, List.map_cons, visitAll_cons, funext (processAll_processFile o files)]
    rfl

/-! ### Runs -/

/-- Steps that make the stops of the tree make them one after the other, whatever bytes are changed on the way. -/
theorem processAll_flatMap {t : FileTree} {step : α → Run → Except Abort Bool × Run} {stopsAt : α → List Stop}
    (hstep : ∀ a r, Keeps t r → step a r = visitAll o (stopsAt a) r) : ∀ (l : List α) (r : Run), Keeps t r →
      processAll step l r = visitAll o (l.flatMap stopsAt) r
  | [], _, _ => rfl
  | a :: l, r, hr => by
    have hrest := hr.trans (keeps_visitAll o (stopsAt a) r)
    rw [List.flatMap_cons, visitAll_append, processAll_cons, hstep a r hr]
    rcases hfirst : visitAll o (stopsAt a) r with ⟨e | ok, r'⟩
    · rfl
    · rw [hfirst] at hrest
      rw [andThen_ok, andThen_ok, processAll_flatMap hstep l r' hrest]

theorem processDirectory_eq (o : RunOptions) (shown : String) (p : Path) (r : Run) {entries : List (String × Node)}
    (h : r.tree.nodeAt? p.route = .ok (some (.directory entries))) :
    processDirectory o shown p r = visitAll o (r.tree.stopsWithin o.scope shown p) r := by
  simp only [processDirectory, h, FileTree.stopsWithin]
  split
  · exact (visitAll_singleton o (.barred .tooDeep) r).symm
  · rcases r.tree.walk o.scope.toSelection p with ⟨e, q⟩ | files
    · exact (visitAll_singleton o (.unlisted shown e q) r).symm
    · exact processAll_processFile o files r

theorem processPath_eq (o : RunOptions) (path : String) (r : Run) :
    processPath o path r = visitAll o (r.tree.stopsNamed o.scope path) r := by
  rw [processPath, FileTree.stopsNamed]
  rcases h : r.tree.nodeAt? (Path.ofString path).route with e | _ | ⟨content⟩ | ⟨entries⟩
  · exact (visitAll_singleton o (.barred _) r).symm
  · exact (visitAll_singleton o (.missing path) r).symm
  · exact (visitAll_singleton o (.file none (.ofString path)) r).symm
  · exact processDirectory_eq o _ _ r h

theorem processDirectoryNamed_eq (o : RunOptions) (path : String) (r : Run) :
    processDirectoryNamed o path r = visitAll o (r.tree.stopsBelow o.scope path) r := by
  rw [processDirectoryNamed, FileTree.stopsBelow]
  rcases h : r.tree.nodeAt? (Path.ofString path).route with e | _ | ⟨content⟩ | ⟨entries⟩
  · rw [processDirectory, h]
    exact (visitAll_singleton o (.barred _) r).symm
  · rw [processDirectory, h]
    exact (visitAll_singleton o (.absent path) r).symm
  · rw [processDirectory, h]
    exact (visitAll_singleton o (.absent path) r).symm
  · exact processDirectory_eq o path _ r h

theorem processSelected_eq (o : RunOptions) (name : List CodePoint) (r : Run) :
    processSelected o name r = visitAll o (r.tree.stopsSelected o.scope name) r := by
  rw [processSelected, FileTree.stopsSelected]
  cases Text.string? name with
  | some path => exact processDirectoryNamed_eq o path r
  | none =>
    cases r.tree.overlong? name with
    | some path => exact (visitAll_singleton o (.barred _) r).symm
    | none => exact (visitAll_singleton o (.barred _) r).symm

/-- What a run does at its paths, or at the directories of the selection if no path is given: it makes the stops that
its tree has by then. -/
theorem processAll_targets (o : RunOptions) (paths : List String) (r : Run) :
    (if paths.isEmpty then processAll (processSelected o) o.scope.directories r
      else processAll (processPath o) paths r) = visitAll o (r.tree.stops o.scope paths) r := by
  rw [FileTree.stops]
  split
  · refine processAll_flatMap (fun name r' hr' => ?_) o.scope.directories r (keeps_of_eq rfl)
    obtain ⟨f, hf⟩ := hr'
    rw [processSelected_eq, hf, FileTree.stopsSelected_mapFiles]
  · refine processAll_flatMap (fun path r' hr' => ?_) paths r (keeps_of_eq rfl)
    obtain ⟨f, hf⟩ := hr'
    rw [processPath_eq, hf, FileTree.stopsNamed_mapFiles]

/-- A run makes the stops that its tree has at the start, after a first notice and before a last one. -/
theorem run_eq_visitAll (o : RunOptions) (paths : List String) (r : Run) :
    run o paths r = match visitAll o (r.tree.stops o.scope paths) (r.say .started) with
      | (.error e, r) => (.error e, r)
      | (.ok ok, r) => (.ok ok, r.say (.finished o.dryRun r.tally)) := by
  have htargets := processAll_targets o paths (r.say .started)
  have htree : (r.say .started).tree = r.tree := rfl
  simp only [run, htargets, htree]
  rcases visitAll o (r.tree.stops o.scope paths) (r.say .started) with ⟨e | ok, r'⟩ <;> rfl

theorem keeps_run (o : RunOptions) (paths : List String) (r : Run) : Keeps r.tree (run o paths r).2 := by
  have hkeeps := keeps_visitAll o (r.tree.stops o.scope paths) (r.say .started)
  rw [run_eq_visitAll]
  rcases hall : visitAll o (r.tree.stops o.scope paths) (r.say .started) with ⟨e | ok, r'⟩
  · rwa [hall] at hkeeps
  · rwa [hall] at hkeeps

/-- A run makes nothing appear or disappear. -/
theorem holds_run (o : RunOptions) (paths : List String) (r : Run) (route : Route) :
    (run o paths r).2.tree.holds route = r.tree.holds route := by
  obtain ⟨f, hf⟩ := keeps_run o paths r
  rw [hf, FileTree.holds_mapFiles]

end Run

end BracketSpacing
