import BracketSpacing.FileTree.Access
import BracketSpacing.Settings.Read
import BracketSpacing.Yaml.Error

/-!
# Settings from a file

* `Loader`: what documents the bytes of files hold, and how deep the values in them can be shown.
* `Settings.load`: the settings in the file that is named, or in the file of the default name if it is there.
-/

namespace BracketSpacing

/-- How the bytes of a file become a document, and how much room there is for showing the values in it. -/
structure Loader where
  document : List UInt8 → Except Yaml.Error Document
  room : Room

/-- Why a file gives no settings. -/
inductive LoadError where
  /-- The file cannot be opened. -/
  | unopened (e : OpenError) (path : String)
  /-- The file holds no document. -/
  | document (e : Yaml.Error)
  /-- The document holds no settings. -/
  | settings (e : SettingsError)

/-- What is said about the error. -/
def LoadError.message : LoadError → String
  | unopened (.file e) path => e.messageAt path
  | unopened .nul _ => nulMessage
  | document e => e.message
  | settings e => e.message

namespace Settings

/-- The name of the file that is read if none is named. -/
def defaultFile : String := "bracketsmith.yaml"

/-- The settings in the bytes of a file. -/
def ofBytes (l : Loader) (bytes : List UInt8) : Except LoadError Settings := do
  let document ← (l.document bytes).mapError .document
  (Settings.ofDocument l.room document).mapError .settings

/-- The settings in the file at the path. -/
def loadFile (l : Loader) (t : FileTree) (path : String) : Except LoadError Settings :=
  match t.read (.ofString path) with
  | .ok bytes => ofBytes l bytes
  | .error e => .error (.unopened e path)

/-- The settings in the file that is named. If none is, and nothing has the default name, all settings are defaults. -/
def load (l : Loader) (t : FileTree) : (path : Option String) → Except LoadError Settings
  | some path => loadFile l t path
  | none => if t.holds (.ofString defaultFile) then loadFile l t defaultFile else .ok {}

end Settings

end BracketSpacing
