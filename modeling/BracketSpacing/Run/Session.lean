import BracketSpacing.Run.Basic

/-!
# One runner over time

* `Session`: the options of a runner and its run so far.
* `Request` and `Session.after`: what is asked of a runner, and the session when it has been asked.
-/

namespace BracketSpacing

/-- A runner over time: its options, and the files and tallies as they are. -/
structure Session where
  options : RunOptions
  current : Run

/-- What is asked of a runner, or happens between what is asked of it. -/
inductive Request where
  | run (paths : List String)
  | processPath (path : String)
  | processFile (path : String)
  | processDirectory (path : String)
  /-- From now on files are only checked, or written again. -/
  | setDryRun (dryRun : Bool)
  /-- From now on every file is reported, or not any more. -/
  | setVerbose (verbose : Bool)
  /-- Others make changes to files. -/
  | outside (t : FileTree)

namespace Session

/-- The session when a runner has been asked, also if that broke off. -/
def ask (s : Session) : Request → Session
  | .run paths => { s with current := (Run.run s.options paths s.current).2 }
  | .processPath path => { s with current := (Run.processPath s.options path s.current).2 }
  | .processFile path => { s with current := (Run.processFile s.options (.ofString path) s.current).2 }
  | .processDirectory path => { s with current := (Run.processDirectoryNamed s.options path s.current).2 }
  | .setDryRun dryRun => { s with options := { s.options with dryRun := dryRun } }
  | .setVerbose verbose => { s with options := { s.options with verbose := verbose } }
  | .outside t => { s with current := { s.current with tree := t } }

/-- The session after requests, one after the other. -/
def after (s : Session) (requests : List Request) : Session :=
  requests.foldl ask s

/-- The session of a new runner. -/
def start (o : RunOptions) (t : FileTree) : Session :=
  { options := o, current := { tree := t } }

end Session

end BracketSpacing
