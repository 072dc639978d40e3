import BracketSpacing.FileTree.Access
import BracketSpacing.Run.Tally
import BracketSpacing.Text.Utf8

/-!
# What a run reports

* `FileFailure`: why a file could not be read or written.
* `Notice`: an event of a run that is reported.
* `Notice.text` and `Notice.isFailure`: its wording, and whether it goes where errors go.
-/

namespace BracketSpacing

/-- Why a file could not be read or written. -/
inductive FileFailure where
  /-- The file cannot be opened. -/
  | unreachable (e : FileError)
  /-- The bytes are no text. -/
  | undecodable (e : Text.Utf8.DecodeError)
  deriving DecidableEq

/-- What is said about the failure of the file at a path. -/
def FileFailure.message (path : String) : FileFailure → String
  | unreachable e => e.messageAt path
  | undecodable e => e.message

/-- An event of a run. -/
inductive Notice where
  /-- The run starts. -/
  | started
  /-- A directory is not there; the run goes on without it. -/
  | directoryNotFound (path : String)
  /-- A path that was asked for is not there. -/
  | pathNotFound (path : String)
  /-- The entry at a path keeps a directory from being walked. -/
  | directoryFailed (directory : String) (e : FileError) (path : String)
  /-- A file could not be read or written. -/
  | fileFailed (path : String) (failure : FileFailure)
  /-- The last of so many passes over a file still changed something. -/
  | unsettled (passes : Nat) (path : String)
  /-- A file stays as it is. -/
  | unchanged (path : String)
  /-- A file would be changed. -/
  | wouldChange (path : String)
  /-- A file was changed. -/
  | changed (path : String)
  /-- The run is over. -/
  | finished (dryRun : Bool) (tally : Tally)

namespace Notice

/-- The wording of a notice. -/
def text : Notice → String
  | started => "🔧 Processing array spacing..."
  | directoryNotFound path => "⚠️ Directory not found: " ++ path
  | pathNotFound path => "❌ Path not found: " ++ path
  | directoryFailed directory e path => "❌ Error processing directory " ++ directory ++ ": " ++ e.messageAt path
  | fileFailed path failure => "❌ Error processing file " ++ path ++ ": " ++ failure.message path
  | unsettled passes path => "⚠️ No fixed point after " ++ toString passes ++ " passes: " ++ path
  | unchanged path => "⏭️ No changes needed: " ++ path
  | wouldChange path => "🔍 Would be processed: " ++ path
  | changed path => "✅ Processed: " ++ path
  | finished dryRun tally => tally.summary dryRun

/-- Whether a notice goes where errors go. -/
def isFailure : Notice → Bool
  | pathNotFound _ | directoryFailed _ _ _ | fileFailed _ _ => true
  | _ => false

/-- Whether a notice is given only if every file is to be reported. -/
def isDetail : Notice → Bool
  | unchanged _ | wouldChange _ | changed _ => true
  | _ => false

end Notice

end BracketSpacing
