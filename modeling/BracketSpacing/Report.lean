import BracketSpacing.Run.Tally

/-!
# Reports of runs

* `Report`: what a run came to.
* `Report.text`: the report as a JSON document.
-/

namespace BracketSpacing

/-- What a run came to, and when the report was made. -/
structure Report where
  createdAt : String
  dryRun : Bool
  tally : Tally

namespace Report

/-- A character as it stands in a JSON text: the quote, the backslash and controls are escaped. -/
def escapedChar (c : Char) : List Char :=
  if c = '"' ∨ c = '\\' then ['\\', c]
  else if c = '\n' then ['\\', 'n']
  else if c = '\r' then ['\\', 'r']
  else if c = '\t' then ['\\', 't']
  else if c = '\x08' then ['\\', 'b']
  else if c = '\x0c' then ['\\', 'f']
  else if c.toNat < 0x20 then
    let digits := Nat.toDigits 16 c.toNat
    '\\' :: 'u' :: (List.replicate (4 - digits.length) '0' ++ digits)
  else [c]

/-- A text as a JSON text. -/
def jsonText (s : String) : String :=
  String.ofList ('"' :: (s.toList.flatMap escapedChar ++ ['"']))

/-- A list of texts as a JSON array, one item a line. -/
def jsonList (items : List String) : String :=
  if items.isEmpty then "[]" else "[\n    " ++ ",\n    ".intercalate (items.map jsonText) ++ "\n  ]"

/-- A truth value of JSON. -/
def jsonBool (b : Bool) : String :=
  if b then "true" else "false"

/-- The counts of a run as a JSON object. -/
def jsonCounts (t : Tally) : String :=
  "\x7b\n    \"processed\": " ++ toString t.processed ++ ",\n    \"changed\": " ++ toString t.changed ++ "\n  \x7d"

/-- The report as a JSON document, indented by two blanks a level. -/
def text (r : Report) : String :=
  let fields := [("created_at", jsonText r.createdAt), ("dry_run", jsonBool r.dryRun), ("stats", jsonCounts r.tally),
    ("changed_files", jsonList r.tally.changedFiles), ("failed_files", jsonList r.tally.failedFiles),
    ("non_converged_files", jsonList r.tally.unsettledFiles)]
  "\x7b\n  " ++ ",\n  ".intercalate (fields.map fun (key, value) => jsonText key ++ ": " ++ value) ++ "\n\x7d"

end Report

end BracketSpacing
