import BracketSpacing.Normalizer
import BracketSpacing.Run.Notice
import BracketSpacing.Walk

/-!
# Runs over files

* `Mishap` and `Storage`: files that cannot be read or written, whatever their tree tells.
* `Run`: the file tree, the tally, the notices and the files started on so far.
* `RunOptions`: how files are normalized and selected, whether they are only checked, and what goes wrong with them.
* `processFile`, `processDirectory`, `processPath`, `run`: what is done for a file, a directory, any path, and for all
  paths that are given.

Each gives whether all went well, or why it broke off, together with the run after it. A run breaks off only at a path
that no file can have, at a directory that is too deep to be walked, at the name of a directory that cannot be printed,
or if no rule for segments is known.
-/

namespace BracketSpacing

open Text (CodePoint pointsOf)

/-! ## Files that fail -/

/-- What can go wrong with a file that its tree has. -/
inductive Mishap where
  /-- The file cannot be read. -/
  | unreadable (e : FileError)
  /-- The file cannot be written; these bytes are left in it. -/
  | unwritable (e : FileError) (left : List UInt8)

/-- What goes wrong with the files that a run starts on, by their number from zero on. -/
structure Storage where
  mishap? : Nat → Option Mishap := fun _ => none

/-! ## Runs -/

/-- How a run treats files, and what goes wrong with them. -/
structure RunOptions where
  normalizer : Normalizer := {}
  scope : Scope := {}
  /-- Files are checked and not written. -/
  dryRun : Bool := false
  /-- Every file is reported. -/
  verbose : Bool := false
  storage : Storage := {}

/-- A run: the files as they are, what was counted, the notices so far in order, and the paths of the files that it has
started on. -/
structure Run where
  tree : FileTree
  tally : Tally := {}
  notices : List Notice := []
  begun : List Path := []

/-- Why a run breaks off. -/
inductive Abort where
  /-- A path holds a NUL. -/
  | nul
  /-- Whether a path is there cannot be told. -/
  | unreachable (e : FileError) (path : List CodePoint)
  /-- Directories lie too deep in one another. -/
  | tooDeep
  /-- What is to be printed holds surrogates. -/
  | unprintable (s : List CodePoint)
  /-- No rule for segments is known. -/
  | unsegmentable
  deriving DecidableEq

namespace Run

/-- What goes wrong with the file that the run starts on next. -/
def mishap? (o : RunOptions) (r : Run) : Option Mishap :=
  o.storage.mishap? r.begun.length

/-- The run with one more file that it is told to process. -/
def startOn (r : Run) (p : Path) : Run :=
  { r with begun := r.begun ++ [p] }

/-- The run with one more notice. -/
def say (r : Run) (n : Notice) : Run :=
  { r with notices := r.notices ++ [n] }

/-- The run with one more notice, unless it is a detail and details are not wanted. -/
def report (r : Run) (o : RunOptions) (n : Notice) : Run :=
  if n.isDetail && !o.verbose then r else r.say n

/-- The run with one more file counted. -/
def startFile (r : Run) : Run :=
  { r with tally := { r.tally with processed := r.tally.processed + 1 } }

/-- The run with a path that failed. -/
def fail (r : Run) (path : String) (n : Notice) : Run :=
  { r with tally := { r.tally with failedFiles := r.tally.failedFiles ++ [path] } }.say n

/-- The run with a file whose last pass still changed something. -/
def noteUnsettled (r : Run) (path : String) (passes : Nat) : Run :=
  { r with tally := { r.tally with unsettledFiles := r.tally.unsettledFiles ++ [path] } }.say (.unsettled passes path)

/-- The run with one more file that has another text. -/
def noteChanged (r : Run) (path : String) : Run :=
  { r with tally := { r.tally with
      changed := r.tally.changed + 1
      changedFiles := r.tally.changedFiles ++ [path] } }

/-- The run with the text in the file at the given names. -/
def writeFile (r : Run) (names : List String) (text : List Char) : Run :=
  { r with tree := r.tree.setFile names (Text.Utf8.encode text) }

/-! ## One file -/

/-- What normalizing the file at a path comes to: the names of the file and the outcome, or why there is none. -/
def examine (o : RunOptions) (mishap : Option Mishap) (t : FileTree) (p : Path) :
    Except Abort (Except FileFailure (List String × Outcome)) :=
  match t.openFile p.route, mishap with
  | .error .nul, _ => .error .nul
  | .error (.file e), _ | .ok _, some (.unreadable e) => .ok (.error (.unreachable e))
  | .ok (names, bytes), _ =>
    match Text.Utf8.decode bytes with
    | .error e => .ok (.error (.undecodable e))
    | .ok text =>
      match o.normalizer.normalize? text with
      | none => .error .unsegmentable
      | some outcome => .ok (.ok (names, outcome))

/-- The text is written to the file at the given names, whose path is given too. -/
def rewriteFile (o : RunOptions) (mishap : Option Mishap) (p : Path) (names : List String) (text : List Char)
    (r : Run) : Bool × Run :=
  match mishap with
  | some (.unwritable e left) =>
    (false, ({ r with tree := r.tree.setFile names left }).fail p.text (.fileFailed p.text (.unreachable e)))
  | _ => (true, (r.writeFile names text).report o (.changed p.text))

/-- The run after the outcome for a file. A file that is to be written is counted before it is. -/
def conclude (o : RunOptions) (mishap : Option Mishap) (p : Path) (names : List String) (outcome : Outcome) (r : Run) :
    Bool × Run :=
  let r := if outcome.converged then r else r.noteUnsettled p.text outcome.passes
  if !outcome.changed then (true, r.report o (.unchanged p.text))
  else if o.dryRun then (true, (r.noteChanged p.text).report o (.wouldChange p.text))
  else (r.noteChanged p.text).rewriteFile o mishap p names outcome.text

/-- The file at a path is normalized, and something may go wrong with it. -/
def processFileAmid (o : RunOptions) (mishap : Option Mishap) (p : Path) (r : Run) : Except Abort Bool × Run :=
  let r := r.startFile
  match examine o mishap r.tree p with
  | .error a => (.error a, r)
  | .ok (.error failure) => (.ok false, r.fail p.text (.fileFailed p.text failure))
  | .ok (.ok (names, outcome)) =>
    let x := r.conclude o mishap p names outcome
    (.ok x.1, x.2)

/-- The file at a path is normalized. -/
def processFile (o : RunOptions) (p : Path) (r : Run) : Except Abort Bool × Run :=
  (r.startOn p).processFileAmid o (r.mishap? o) p

/-! ## Several files -/

/-- One step after the other, until one breaks off. All went well if every step did. -/
def processAll {α : Type} (step : α → Run → Except Abort Bool × Run) : List α → Run → Except Abort Bool × Run
  | [], r => (.ok true, r)
  | a :: rest, r =>
    match step a r with
    | (.error e, r) => (.error e, r)
    | (.ok ok, r) =>
      match processAll step rest r with
      | (.error e, r) => (.error e, r)
      | (.ok others, r) => (.ok (ok && others), r)

/-- The files below a directory are normalized. A directory that is not there is no failure; `shown` is how notices
name it. -/
def processDirectory (o : RunOptions) (shown : String) (p : Path) (r : Run) : Except Abort Bool × Run :=
  match r.tree.nodeAt? p.route with
  | .error e => (.error (.unreachable e (pointsOf p.text)), r)
  | .ok (some (.directory _)) =>
    if r.tree.isTooDeep o.scope.levels p then (.error .tooDeep, r)
    else
      match r.tree.walk o.scope.toSelection p with
      | .ok files => processAll (processFile o) files r
      | .error (e, q) => (.ok false, r.say (.directoryFailed shown e q.text))
  | .ok _ => (.ok true, r.say (.directoryNotFound shown))

/-- The directory that a text names is normalized. -/
def processDirectoryNamed (o : RunOptions) (path : String) (r : Run) : Except Abort Bool × Run :=
  processDirectory o path (.ofString path) r

/-- The file or directory that a text names is normalized. It must be there. -/
def processPath (o : RunOptions) (path : String) (r : Run) : Except Abort Bool × Run :=
  let p := Path.ofString path
  match r.tree.nodeAt? p.route with
  | .error e => (.error (.unreachable e (pointsOf p.text)), r)
  | .ok none => (.ok false, r.fail path (.pathNotFound path))
  | .ok (some (.directory _)) => processDirectory o p.text p r
  | .ok (some (.file _)) => processFile o p r

/-- A directory of the selection is normalized. One whose name holds surrogates is taken not to be there, which cannot
be said. -/
def processSelected (o : RunOptions) (name : List CodePoint) (r : Run) : Except Abort Bool × Run :=
  match Text.string? name with
  | some path => processDirectoryNamed o path r
  | none =>
    match r.tree.overlong? name with
    | some path => (.error (.unreachable .nameTooLong path), r)
    | none => (.error (.unprintable (pointsOf (Notice.directoryNotFound "").text ++ name)), r)

/-- All paths are normalized, or all directories of the selection if no path is given. -/
def run (o : RunOptions) (paths : List String) (r : Run) : Except Abort Bool × Run :=
  let r := r.say .started
  let (result, r) :=
    if paths.isEmpty then processAll (processSelected o) o.scope.directories r
    else processAll (processPath o) paths r
  match result with
  | .error e => (.error e, r)
  | .ok ok => (.ok ok, r.say (.finished o.dryRun r.tally))

end Run

end BracketSpacing
