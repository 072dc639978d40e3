import BracketSpacing.Command.Basic

/-!
# File trees on the disk

* `Disk.loadFor`: the part of the disk that a command can reach, as a file tree. Links to files are files, and links to
  directories are followed only where a path names them.
* `Disk.store`: what differs between two trees, written to the disk.
-/

namespace BracketSpacing

namespace Disk

/-- The place of names on the disk. -/
def place (names : List String) :=
  System.mkFilePath ["/" ++ "/".intercalate names]

/-! ## Loading -/

/-- The tree with what is at the given names: the bytes of a file, or a directory without its entries. -/
def load (names : List String) (t : FileTree) : IO FileTree := do
  if ← (place names).isDir then return t.addDirectory names
  else if ← (place names).pathExists then return t.addFile names (← IO.FS.readBinFile (place names)).toList
  else return t

/-- The tree with what steps come across, from the given names on. -/
def loadSteps : List String → List Step → FileTree → IO FileTree
  | _, [], t => return t
  | names, .stay :: steps, t => loadSteps names steps t
  | names, .up :: steps, t => loadSteps names.dropLast steps t
  | names, .into name :: steps, t => do loadSteps (names ++ [name]) steps (← load (names ++ [name]) t)

/-- The tree with what a route comes across. -/
def loadRoute (r : Route) (t : FileTree) : IO FileTree :=
  loadSteps (if r.fromTop then [] else t.here) r.steps t

/-- The tree with the directories and the files that are taken below the directory at the given names, whose path is
given too. -/
partial def loadBelow (s : Selection) (p : Path) (names : List String) (t : FileTree) : IO FileTree := do
  let mut t := t
  for entry in ← (place names).readDir do
    let p := p.append [entry.fileName]
    let names := names ++ [entry.fileName]
    match (← entry.path.symlinkMetadata).type with
    | .dir => t ← loadBelow s p names (t.addDirectory names)
    | .file | .symlink => if s.takes p then t ← load names t
    | .other => pure ()
  return t

/-- The tree with all that a run can reach from a path. -/
def loadPath (s : Selection) (p : Path) (t : FileTree) : IO FileTree := do
  let t ← loadRoute p.route t
  match t.locate p.route with
  | .ok names => if t.isDirectory p.route then loadBelow s p names t else return t
  | .error _ => return t

/-- The tree with the settings file of a command. -/
def loadSettings (a : SettingsArguments) (t : FileTree) : IO FileTree :=
  match a.config with
  | .standard => loadRoute (.ofString Settings.defaultFile) t
  | .file path => loadRoute (.ofString path) t
  | .pathless => return t

/-- The tree with all that a run over files can reach. -/
def loadRun (l : Loader) (a : RunArguments) (t : FileTree) : IO FileTree := do
  let t ← loadSettings a.toSettingsArguments t
  match a.settings l t with
  | .error _ => return t
  | .ok settings =>
    let paths := if a.paths.isEmpty then settings.selection.directories.filterMap Text.string? else a.paths
    let t ← paths.foldlM (fun t path => loadPath settings.selection (.ofString path) t) t
    match a.reportFile with
    | some file => loadRoute (Path.ofString file).route t
    | none => return t

/-- The tree with all that a command can reach. -/
def loadFor (l : Loader) : Command → FileTree → IO FileTree
  | .fix a, t => loadRun l a t
  | .check a, t => loadRun l a t
  | .format a, t => loadSettings a t

/-! ## Storing -/

/-- The second node is written where it differs from the first. -/
partial def storeNode (names : List String) (before : Option Node) : Node → IO Unit
  | .file content => do
    let same := match before with
      | some (.file old) => old == content
      | _ => false
    if !same then IO.FS.writeBinFile (place names) ⟨content.toArray⟩
  | .directory entries => do
    if before.isNone then IO.FS.createDir (place names)
    for (name, node) in entries do
      storeNode (names ++ [name]) (before.bind fun b => b.get? [name]) node

/-- The second tree is written where it differs from the first. -/
def store (before after : FileTree) : IO Unit :=
  storeNode [] (some before.root) after.root

end Disk

end BracketSpacing
