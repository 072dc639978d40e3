import BracketSpacing.Segment.Scan
import BracketSpacing.Text.Digit
import BracketSpacing.Text.LineBreak

/-!
# Arguments of the command line

* `Command`: what is asked for.
* `Command.parse?`: the command that arguments ask for; none if they are no proper arguments.

Arguments are texts: none of them holds a surrogate. An option may be cut short as long as no other option starts so,
its value follows it or an equals sign, and two hyphens alone end the options. After an equals sign two hyphens are no
value. Paths stand together.
-/

namespace BracketSpacing

/-! ## Commands -/

/-- Where settings are read from. -/
inductive SettingsSource where
  /-- The file of the default name, if it is there. -/
  | standard
  | file (path : String)
  /-- A file is asked for, but without a path. -/
  | pathless
  deriving DecidableEq

/-- What the settings of a command are taken from. -/
structure SettingsArguments where
  config : SettingsSource := .standard
  /-- A strategy in place of that of the settings. -/
  strategy : Option Strategy := none

/-- What a run over files is given. -/
structure RunArguments extends SettingsArguments where
  paths : List String := []
  verbose : Bool := false
  /-- A progress bar is shown for every directory. What it prints is left out, so that it makes no difference here. -/
  progress : Bool := false
  dryRun : Bool := false
  /-- The file that a report is written to. -/
  reportFile : Option String := none

/-- What is asked for. -/
inductive Command where
  /-- Files are normalized. -/
  | fix (arguments : RunArguments)
  /-- Files are checked. -/
  | check (arguments : RunArguments)
  /-- A text is normalized. -/
  | format (arguments : SettingsArguments)

/-! ## Options -/

/-- An option that stands for itself. -/
inductive Flag where
  | verbose
  | progress
  | dryRun
  deriving DecidableEq

/-- An option that a value belongs to. -/
inductive Setting where
  | config
  | strategy
  | report
  deriving DecidableEq

/-- An option. -/
inductive OptionName where
  | flag (f : Flag)
  | setting (s : Setting)
  deriving DecidableEq

/-- The spellings of options. -/
abbrev Spellings := List (String × OptionName)

/-- The options of every command. -/
def commonOptions : Spellings :=
  [("--config", .setting .config), ("--strategy", .setting .strategy)]

/-- The options of a command that runs over files. -/
def runOptions : Spellings :=
  commonOptions ++ [("--verbose", .flag .verbose), ("-v", .flag .verbose), ("--progress", .flag .progress),
    ("--report", .setting .report)]

/-- The options of a command that normalizes files. -/
def fixOptions : Spellings :=
  runOptions ++ [("--dry-run", .flag .dryRun)]

/-! ## Single arguments -/

/-- An argument by itself: a path or value, an option with what follows its equals sign, or the two hyphens that end
the options. -/
inductive Argument where
  | operand (s : String)
  | option (name : OptionName) (attached : Option String)
  | endOfOptions
  deriving DecidableEq

namespace Argument

/-- The option of a spelling. -/
def spelled? (options : Spellings) (s : List Char) : Option OptionName :=
  (options.find? (·.1.toList == s)).map (·.2)

/-- What follows the first equals sign. -/
def attachedTo (s : List Char) : Option String :=
  match s.dropWhile (· != '=') with
  | _ :: value => some (String.ofList value)
  | [] => none

/-- Whether an argument with a hyphen in front is a negative number. A line feed may follow it. -/
def isNegativeNumber (s : List Char) : Bool :=
  match Text.dropFinalBreak s with
  | '-' :: s =>
    match s.dropWhile Text.isDecimalDigit with
    | [] => !s.isEmpty
    | '.' :: places => !places.isEmpty && places.all Text.isDecimalDigit
    | _ => false
  | _ => false

/-- Whether what follows a hyphen and a letter repeats that letter only. An equals sign may stand before the first
repetition. -/
def isCluster (c : Char) : List Char → Bool
  | '=' :: s => !s.isEmpty && s.all (· == c)
  | s => s.all (· == c)

/-- An argument that no option is spelled like: a negative number or a text with a blank in it is an operand. -/
def unspelled? (s : List Char) : Option Argument :=
  if isNegativeNumber s || s.contains ' ' then some (.operand (String.ofList s)) else none

/-- The argument that a text is, before the options have ended. -/
def parse? (options : Spellings) (text : String) : Option Argument :=
  let s := text.toList
  let front := s.takeWhile (· != '=')
  if s.head? ≠ some '-' then some (.operand text)
  else if text = "--" then some .endOfOptions
  else
    match s with
    | '-' :: '-' :: _ =>
      match spelled? options front with
      | some name => some (.option name (attachedTo s))
      | none =>
        match options.filter fun (spelling, _) => decide (front <+: spelling.toList) with
        | [] => unspelled? s
        | [(_, name)] => some (.option name (attachedTo s))
        | _ => none
    | '-' :: c :: cluster =>
      match spelled? options ['-', c] with
      | some name => if isCluster c cluster then some (.option name none) else none
      | none => unspelled? s
    | _ => some (.operand text)

/-- The arguments that texts are. After the end of the options all are operands. -/
def parseAll? (options : Spellings) : List String → Option (List Argument)
  | [] => some []
  | text :: texts =>
    match parse? options text with
    | none => none
    | some .endOfOptions => some (.endOfOptions :: texts.map .operand)
    | some a => (parseAll? options texts).map (a :: ·)

end Argument

/-! ## Commands from arguments -/

namespace RunArguments

/-- The arguments with a flag set. -/
def setFlag (a : RunArguments) : Flag → RunArguments
  | .verbose => { a with verbose := true }
  | .progress => { a with progress := true }
  | .dryRun => { a with dryRun := true }

/-- The arguments with the value of an option. A strategy must be one of those that there are. -/
def setValue? (a : RunArguments) (value : String) : Setting → Option RunArguments
  | .config => some { a with config := .file value }
  | .strategy => (Strategy.ofName? value).map fun s => { a with strategy := some s }
  | .report => some { a with reportFile := some value }

/-- The arguments with an option that has no value. -/
def setEmpty (a : RunArguments) : Setting → RunArguments
  | .config => { a with config := .pathless }
  | .strategy => { a with strategy := none }
  | .report => { a with reportFile := none }

/-- The arguments with what follows the equals sign of an option. Two hyphens are no value. -/
def setAttached? (a : RunArguments) (value : String) (s : Setting) : Option RunArguments :=
  if value = "--" then some (a.setEmpty s) else a.setValue? value s

/-- The operands at the front of arguments, and what follows them. -/
def operands : List Argument → List String × List Argument
  | .operand s :: rest =>
    let others := operands rest
    (s :: others.1, others.2)
  | .endOfOptions :: rest => operands rest
  | rest => ([], rest)

/-- The operands take arguments away from the front. -/
theorem length_operands_le (args : List Argument) : (operands args).2.length ≤ args.length := by
  fun_induction operands args with
  | case1 s rest others ih => exact Nat.le_succ_of_le ih
  | case2 rest ih => exact Nat.le_succ_of_le ih
  | case3 rest => exact Nat.le_refl _

/-- What the arguments say, after those that were read before. Paths may be given in one place only, which may have
been passed, or nowhere at all. -/
def collect? (pathsAllowed : Bool) (a : RunArguments) (args : List Argument) : Option RunArguments :=
  match args with
  | [] => some a
  | .option (.flag f) attached :: rest =>
    if attached.isSome then none else collect? pathsAllowed (a.setFlag f) rest
  | .option (.setting s) (some value) :: rest =>
    (a.setAttached? value s).bind fun a => collect? pathsAllowed a rest
  | .option (.setting s) none :: .operand value :: rest =>
    (a.setValue? value s).bind fun a => collect? pathsAllowed a rest
  | .option (.setting _) none :: _ => none
  | .operand path :: rest =>
    if pathsAllowed then collect? false { a with paths := path :: (operands rest).1 } (operands rest).2 else none
  | .endOfOptions :: rest =>
    if pathsAllowed then collect? false { a with paths := (operands rest).1 } (operands rest).2 else none
termination_by args.length
decreasing_by
  all_goals first
    | exact Nat.lt_succ_of_le (length_operands_le _)
    | (simp only [List.length_cons]; omega)

end RunArguments

namespace Command

/-- The command that arguments ask for, after the name of the command. -/
def parse? : List String → Option Command
  | "fix" :: args =>
    (Argument.parseAll? fixOptions args).bind fun args => (RunArguments.collect? true {} args).map .fix
  | "check" :: args =>
    (Argument.parseAll? runOptions args).bind fun args => (RunArguments.collect? true {} args).map .check
  | "format" :: args =>
    (Argument.parseAll? commonOptions args).bind fun args =>
      (RunArguments.collect? false {} args).map fun a => .format a.toSettingsArguments
  | _ => none

end Command

end BracketSpacing
