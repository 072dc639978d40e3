/-!
# What a run counts

* `Tally`: how many files were read and changed, and the lists of files that a run keeps.
* `Tally.summary`: the counts in one sentence.
-/

namespace BracketSpacing

/-- The files that a run has come across so far. -/
structure Tally where
  /-- How many files the run has started on. -/
  processed : Nat := 0
  /-- How many of them have another text than before. -/
  changed : Nat := 0
  /-- The files that have another text, in order. -/
  changedFiles : List String := []
  /-- The paths that could not be read or did not exist, in order. -/
  failedFiles : List String := []
  /-- The files whose last pass still changed something, in order. -/
  unsettledFiles : List String := []
  deriving DecidableEq

/-- The counts in one sentence. -/
def Tally.summary (dryRun : Bool) (t : Tally) : String :=
  let counts := toString t.changed ++ " of " ++ toString t.processed
  if dryRun then "🔍 Verification completed: " ++ counts ++ " files would require changes."
  else "✅ Processing completed: " ++ counts ++ " files were changed."

end BracketSpacing
