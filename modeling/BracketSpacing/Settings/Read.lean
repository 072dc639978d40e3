import BracketSpacing.Settings.Basic
import BracketSpacing.Settings.Value

/-!
# Settings from a document

`Settings.ofDocument` reads settings from a document. Every key may be absent, other keys do not matter, and the first
key whose value does not fit is reported.
-/

namespace BracketSpacing

open Text (CodePoint)

/-- What the value of a key must be. -/
inductive Expected where
  | text
  | int
  | bool
  deriving DecidableEq

/-- The name of what is expected. -/
def Expected.name : Expected → String
  | text => "str"
  | int => "int"
  | bool => "bool"

/-- Why a document holds no settings. -/
inductive SettingsError where
  /-- The document is no mapping. -/
  | notMapping
  /-- The value of a key is neither a text nor a list. -/
  | notList (key : String)
  /-- The value of a key is not what is expected, but what messages show. -/
  | unexpected (key : String) (expected : Expected) (shown : String)
  /-- A value that is to be shown cannot be. -/
  | unshowable (e : ShowError)
  deriving DecidableEq

/-- What is said about the error. -/
def SettingsError.message : SettingsError → String
  | notMapping => "Config file must contain a mapping at the top level"
  | notList key => "Config key " ++ Text.quotedString key ++ " must be a list of strings"
  | unexpected key expected shown =>
    "Config key " ++ Text.quotedString key ++ " must be of type " ++ expected.name ++ ", got " ++ shown
  | unshowable e => e.message

namespace Document

/-- A list of texts: of the items of a list as text, or of one text. -/
def strings (room : Room) (d : Document) (key : String) (v : Value) : Except SettingsError (List (List CodePoint)) :=
  match d.resolve v with
  | .text s => .ok [s]
  | .list items => items.mapM fun item => (d.plain room.item item).mapError .unshowable
  | _ => .error (.notList key)

/-- The error for a value that is not what is expected. -/
def unexpected (room : Room) (d : Document) (key : String) (expected : Expected) (v : Value) : SettingsError :=
  match d.shownAt room.single [] v with
  | .ok shown => .unexpected key expected shown
  | .error e => .unshowable e

/-- A text. -/
def string (room : Room) (d : Document) (key : String) : Value → Except SettingsError (List CodePoint)
  | .text s => .ok s
  | v => .error (unexpected room d key .text v)

/-- A whole number. -/
def whole (room : Room) (d : Document) (key : String) : Value → Except SettingsError Int
  | .int i => .ok i
  | v => .error (unexpected room d key .int v)

/-- A truth value. -/
def truth (room : Room) (d : Document) (key : String) : Value → Except SettingsError Bool
  | .bool b => .ok b
  | v => .error (unexpected room d key .bool v)

/-- What a reader makes of the value of a key, or the default if the key is absent. -/
def field {α : Type} (d : Document) (entries : List (Value × Value)) (key : String) (default : α)
    (read : Document → String → Value → Except SettingsError α) : Except SettingsError α :=
  match Value.get? entries key with
  | some v => read d key v
  | none => .ok default

end Document

namespace Settings

open Document (strings string whole truth)

/-- The settings in entries of a document. -/
def ofEntries (room : Room) (d : Document) (entries : List (Value × Value)) : Except SettingsError Settings := do
  let s : Settings := {}
  let directories ← d.field entries "directories" s.selection.directories (strings room)
  let extensions ← d.field entries "extensions" s.selection.extensions (strings room)
  let skipPatterns ← d.field entries "skip_patterns" s.selection.skipPatterns (strings room)
  let strategy ← d.field entries "strategy" s.spacing.strategy (string room)
  let maxPasses ← d.field entries "max_passes" s.spacing.maxPasses (whole room)
  let classGuard ← d.field entries "char_class_guard" s.spacing.classGuard (truth room)
  return ⟨⟨directories, extensions, skipPatterns⟩, ⟨strategy, maxPasses, classGuard⟩⟩

/-- The settings in a document. One that says nothing leaves all defaults. -/
def ofDocument (room : Room) (d : Document) : Except SettingsError Settings :=
  if d.isVoid then .ok {}
  else
    match d.resolve d.value with
    | .map entries => ofEntries room d entries
    | _ => .error .notMapping

end Settings

end BracketSpacing
