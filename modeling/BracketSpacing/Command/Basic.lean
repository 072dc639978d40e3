import BracketSpacing.Command.Arguments
import BracketSpacing.Report
import BracketSpacing.Run.Basic
import BracketSpacing.Settings.Load

/-!
# Commands

* `Host`: what a command relies on besides the files and its arguments.
* `Command.perform`: what a command does to a file tree, what it prints, and its exit code.
* `Failure`: why a command ends early, with a message.
* `Command.Fault`: why a command breaks down; these are the errors for which it has no message of its own.
* `Command.treeAfter`: the files after a command, also if it broke down.
-/

namespace BracketSpacing

/-- What a command comes to: its exit code, what it prints, and the files after it. -/
structure Performance where
  exitCode : Nat
  out : String := ""
  err : String := ""
  tree : FileTree

/-- Why a command ends early. -/
inductive Failure where
  /-- The settings file is missing. -/
  | missingSettings (path : String)
  /-- The settings file holds no settings. -/
  | invalidSettings (e : LoadError)
  /-- The settings describe no normalizer. -/
  | setup (e : SetupError)
  /-- The report cannot be written. -/
  | report (e : FileError) (path : String)

/-- What is said about the failure. -/
def Failure.message : Failure → String
  | missingSettings path => "Missing config file: " ++ path
  | invalidSettings e => "Invalid config file: " ++ e.message
  | setup e => "Invalid config: " ++ e.message
  | report e path => "Could not write report: " ++ e.messageAt path

/-- Why a command breaks down. -/
inductive Fault where
  /-- There is no path to read settings from. -/
  | noSettingsPath
  /-- The settings file is there and cannot be opened. -/
  | settings (e : FileError) (path : String)
  /-- The settings file holds a document from which no values can be built. -/
  | document (e : Yaml.Error)
  /-- A value in the settings file lies too deep in others to be shown. -/
  | deepSettings
  /-- The path of the report holds a NUL. -/
  | nulInReport
  /-- Too many directories are missing on the way to the report. -/
  | deepReport
  /-- The run broke off. -/
  | aborted (a : Abort)

/-- What is said about the fault. -/
def Fault.message : Fault → String
  | noSettingsPath => "expected str, bytes or os.PathLike object, not list"
  | settings e path => e.messageAt path
  | document e => e.message
  | deepSettings => ShowError.tooDeep.message
  | nulInReport => nulMessage
  | deepReport => "maximum recursion depth exceeded while calling a Python object"
  | aborted .nul => nulMessage
  | aborted (.unreachable e path) => e.message ++ ": " ++ String.ofList (Text.quoted path)
  | aborted .tooDeep => "maximum recursion depth exceeded"
  | aborted (.unprintable s) => Text.encodingMessage s
  | aborted .unsegmentable => ""

/-- What a command relies on besides the files and its arguments. -/
structure Host extends Loader where
  /-- What becomes of the line breaks of the text that `format` normalizes. -/
  lineMode : Text.LineMode
  /-- What goes wrong with the files that a run starts on. -/
  storage : Storage := {}
  /-- How many directories deep a walk can go. -/
  walkLevels : Nat
  /-- How many directories that are missing can be gone up on the way to a report. -/
  reportLevels : Nat
  /-- The time that reports bear. -/
  time : String

namespace Host

/-- What the run of a command goes over. -/
def scope (h : Host) (settings : Settings) : Scope :=
  ⟨settings.selection, h.walkLevels⟩

/-- How the run of a command treats files. -/
def runOptions (h : Host) (a : RunArguments) (dryRun : Bool) (settings : Settings) (normalizer : Normalizer) :
    RunOptions :=
  ⟨normalizer, h.scope settings, dryRun, a.verbose, h.storage⟩

end Host

/-- A line for each text. -/
def lines (texts : List String) : String :=
  String.join (texts.map (· ++ "\n"))

namespace Run

/-- What the notices of a run print where errors do not go. -/
def out (r : Run) : String :=
  lines ((r.notices.filter fun n => !n.isFailure).map Notice.text)

/-- What the notices of a run print where errors go. -/
def err (r : Run) : String :=
  lines ((r.notices.filter Notice.isFailure).map Notice.text)

end Run

/-! ## Preparation -/

namespace SettingsArguments

/-- What the command comes to if its settings cannot be loaded. -/
def unloaded : LoadError → Fault ⊕ Failure
  | .unopened (.file .notFound) path => .inr (.missingSettings path)
  | .unopened (.file e) path => .inl (.settings e path)
  | .document e => if e.isReported then .inr (.invalidSettings (.document e)) else .inl (.document e)
  | .settings (.unshowable .tooDeep) => .inl .deepSettings
  | e => .inr (.invalidSettings e)

/-- The settings that a command reads. -/
def loaded (l : Loader) (a : SettingsArguments) (t : FileTree) : Except (Fault ⊕ Failure) Settings :=
  match a.config with
  | .standard => (Settings.load l t none).mapError unloaded
  | .file path => (Settings.load l t (some path)).mapError unloaded
  | .pathless => .error (.inl .noSettingsPath)

/-- The settings of a command: those that it reads, with its own strategy if it has one. -/
def settings (l : Loader) (a : SettingsArguments) (t : FileTree) : Except (Fault ⊕ Failure) Settings :=
  (a.loaded l t).map fun s =>
    match a.strategy with
    | some strategy => { s with spacing := { s.spacing with strategy := Text.pointsOf strategy.name } }
    | none => s

/-- The settings of a command and the normalizer that they describe. -/
def prepare (l : Loader) (a : SettingsArguments) (t : FileTree) : Except (Fault ⊕ Failure) (Settings × Normalizer) := do
  let settings ← a.settings l t
  match Normalizer.ofSpacing settings.spacing none with
  | .ok n => return (settings, n)
  | .error e => throw (.inr (.setup e))

end SettingsArguments

/-! ## Reports -/

namespace FileTree

/-- The tree with a report in the file at the path, in directories that are made if they are missing, and why the
report could not be written, if it could not. Directories that were made stay. So many directories that are missing can
be gone up. A NUL in the last name comes up when the directories have been made. -/
def writeReport (t : FileTree) (levels : Nat) (p : Path) (report : Report) : FileTree × Option (Fault ⊕ Failure) :=
  if p.parent.route.hasNul then (t, some (.inl .nulInReport))
  else if levels < t.missingAbove p.parent then (t, some (.inl .deepReport))
  else
    match t.makeDirectories p.parent with
    | (t, some (e, p)) => (t, some (.inr (.report e p.text)))
    | (t, none) =>
      if p.route.hasNul then (t, some (.inl .nulInReport))
      else
        match t.write p.route (Text.Utf8.encode report.text.toList) with
        | .ok t => (t, none)
        | .error e => (t, some (.inr (.report e p.text)))

end FileTree

/-! ## The commands -/

namespace Command

/-- What a command comes to when it ends early. -/
def ended (t : FileTree) (f : Failure) : Performance :=
  { exitCode := 1, err := f.message ++ "\n", tree := t }

/-- The performance of a step that may break down or end early. -/
def settled (t : FileTree) {α : Type} (step : Except (Fault ⊕ Failure) α) (next : α → Except Fault Performance) :
    Except Fault Performance :=
  match step with
  | .error (.inl fault) => .error fault
  | .error (.inr failure) => .ok (ended t failure)
  | .ok a => next a

/-- What a run over files comes to: the run, whether all went well, and the line on the report. A report that is asked
for under the empty name is not written. -/
def finish (h : Host) (a : RunArguments) (dryRun : Bool) (r : Run) (conclude : Performance → Performance) :
    Except Fault Performance :=
  let plain : Performance := { exitCode := 0, out := r.out, err := r.err, tree := r.tree }
  match a.reportFile with
  | none => .ok (conclude plain)
  | some "" => .ok (conclude plain)
  | some file =>
    let p := Path.ofString file
    match r.tree.writeReport h.reportLevels p ⟨h.time, dryRun, r.tally⟩ with
    | (_, some (.inl fault)) => .error fault
    | (t, some (.inr failure)) =>
      .ok { plain with exitCode := 1, err := plain.err ++ failure.message ++ "\n", tree := t }
    | (t, none) => .ok (conclude { plain with out := plain.out ++ "Wrote " ++ p.text ++ "\n", tree := t })

/-- A run over the files of a command. -/
def performRun (h : Host) (a : RunArguments) (dryRun : Bool) (t : FileTree)
    (conclude : Bool → Run → Performance → Performance) : Except Fault Performance :=
  settled t (a.prepare h.toLoader t) fun (settings, normalizer) =>
    match Run.run (h.runOptions a dryRun settings normalizer) a.paths { tree := t } with
    | (.error e, _) => .error (.aborted e)
    | (.ok ok, r) => finish h a dryRun r (conclude ok r)

/-- What a command does. `input` is the text that `format` normalizes, as it stands before it is read. -/
def perform (h : Host) (input : List Char) (t : FileTree) : Command → Except Fault Performance
  | fix a => performRun h a a.dryRun t fun ok _ p => { p with exitCode := if ok then 0 else 1 }
  | check a => performRun h a true t fun ok r p =>
    { p with
      exitCode := if ok && r.tally.changed == 0 then 0 else 1
      out := p.out ++ lines (r.tally.changedFiles.map ("would reformat " ++ ·)) }
  | format a => settled t (a.prepare h.toLoader t) fun (_, normalizer) =>
    match normalizer.normalize? (h.lineMode.read input) with
    | some outcome => .ok { exitCode := 0, out := String.ofList outcome.text, tree := t }
    | none => .error (.aborted .unsegmentable)

/-! ## The files after a command -/

/-- The files after a run that came to its end, with what is made for its report. -/
def reported (h : Host) (a : RunArguments) (dryRun : Bool) (r : Run) : FileTree :=
  match a.reportFile with
  | none => r.tree
  | some "" => r.tree
  | some file => (r.tree.writeReport h.reportLevels (.ofString file) ⟨h.time, dryRun, r.tally⟩).1

/-- The files after a run, also if it broke off. -/
def treeAfterRun (h : Host) (a : RunArguments) (dryRun : Bool) (t : FileTree) : FileTree :=
  match a.prepare h.toLoader t with
  | .error _ => t
  | .ok (settings, normalizer) =>
    match Run.run (h.runOptions a dryRun settings normalizer) a.paths { tree := t } with
    | (.error _, r) => r.tree
    | (.ok _, r) => reported h a dryRun r

/-- The files after a command, also if it broke down. -/
def treeAfter (h : Host) (t : FileTree) : Command → FileTree
  | fix a => treeAfterRun h a a.dryRun t
  | check a => treeAfterRun h a true t
  | format _ => t

end Command

end BracketSpacing
