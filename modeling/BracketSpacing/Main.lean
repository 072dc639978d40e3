import BracketSpacing.Disk
import BracketSpacing.Yaml.Document
import Std.Time.DateTime

/-!
# The program

The arguments of the program make a command, which is performed on the part of the disk that it can reach. The text that
`format` normalizes is the standard input, whose line breaks are kept, as a POSIX system does. Settings are read as
YAML.
-/

namespace BracketSpacing

/-- What is said about arguments that make no command. -/
def usage : String :=
  "usage: fix [--config FILE] [--strategy NAME] [--verbose] [--progress] [--report FILE] [--dry-run] [PATH ...]\n" ++
  "       check [--config FILE] [--strategy NAME] [--verbose] [--progress] [--report FILE] [PATH ...]\n" ++
  "       format [--config FILE] [--strategy NAME]"

/-- The time of day in UTC, to the microsecond. -/
def currentTime : IO String := do
  let now ← Std.Time.Timestamp.now
  let t := Std.Time.PlainDateTime.ofWallTime (.ofNanoseconds now.toNanosecondsSinceUnixEpoch)
  let date := [Decimal.padded 4 t.date.year.toInt.toNat, Decimal.padded 2 t.date.month.val.toNat,
    Decimal.padded 2 t.date.day.val.toNat]
  let time := [t.time.hour.val.toNat, t.time.minute.val.toNat, t.time.second.val.toNat].map (Decimal.padded 2)
  let micros := t.time.nanosecond.val.toNat / 1000
  let fraction := if micros == 0 then "" else "." ++ Decimal.padded 6 micros
  return "-".intercalate date ++ "T" ++ ":".intercalate time ++ fraction ++ "+00:00"

/-- The number of levels that calls may lie deep. -/
def levelLimit : Nat := 1000

/-- The number of calls around the showing of a value in the settings of a command. -/
def Command.callsAround : Command → Nat
  | .format _ => 7
  | _ => 8

/-- How a command reads its settings. Items of lists are shown one call deeper than other values. -/
def yamlLoader (command : Command) : Loader :=
  ⟨Yaml.load, levelLimit - command.callsAround, levelLimit - command.callsAround - 1⟩

/-- The number of calls around the listing of the entries of a directory. A path that is given takes one more than a
directory of the settings. -/
def Command.callsAroundWalk : Command → Nat
  | .fix a | .check a => if a.paths.isEmpty then 14 else 15
  | .format _ => 0

/-- The number of calls around the making of a directory for a report. -/
def callsAroundReport : Nat := 11

/-- The text that a command normalizes, if it normalizes one. -/
def inputOf : Command → IO (Except Text.Utf8.DecodeError (List Char))
  | .format _ => do return Text.Utf8.decode (← (← IO.getStdin).readBinToEnd).toList
  | _ => return .ok []

/-- The command is performed on the disk, and its exit code is given. -/
def execute (command : Command) : IO UInt32 := do
  let here := (← IO.currentDir).components.filter (· != "")
  let loader := yamlLoader command
  let tree ← Disk.loadFor loader command (.empty here)
  match ← inputOf command with
  | .error e =>
    IO.eprintln e.message
    return 1
  | .ok input =>
    let host : Host := {
      toLoader := loader
      lineMode := .kept
      walkLevels := levelLimit - command.callsAroundWalk
      reportLevels := levelLimit - callsAroundReport
      time := ← currentTime }
    match command.perform host input tree with
    | .error fault =>
      Disk.store tree (command.treeAfter host tree)
      IO.eprintln fault.message
      return 1
    | .ok p =>
      Disk.store tree p.tree
      IO.print p.out
      IO.eprint p.err
      return p.exitCode.toUInt32

end BracketSpacing

open BracketSpacing in
/-- The exit code is 2 if the arguments make no command. -/
def main (args : List String) : IO UInt32 :=
  match Command.parse? args with
  | some command => execute command
  | none => do
    IO.eprintln usage
    return 2
