import BracketSpacing.FileTree.Basic
import BracketSpacing.Path
import BracketSpacing.Text.Quoted

/-!
# Reaching files by path

* `Route`: the steps of a path, from the current directory or from the top. A text that names a file is a route with a
  step for every component; an empty component, such as after a slash at the end, is a step that stays in a directory.
* `FileTree.locate`: the names that a route leads to from the top, or why it leads nowhere.
* `FileTree.read`, `FileTree.write`, `FileTree.makeDirectories`: what can be done there. `FileTree.missingAbove`: how
  many directories are to be made before another one can be.
* `FileTree.overlong?`: whether a name that is no text is too long. Nothing is taken to have such a name, also where its
  surrogates spell the bytes of a text.
-/

namespace BracketSpacing

open Text (CodePoint)

/-! ## Errors -/

/-- Why a file or directory cannot be reached or made. -/
inductive FileError where
  | notFound
  | denied
  | alreadyExists
  | notDirectory
  | isDirectory
  | nameTooLong
  deriving DecidableEq

/-- The number of the error and what is said about it. -/
def FileError.message : FileError → String
  | notFound => "[Errno 2] No such file or directory"
  | denied => "[Errno 13] Permission denied"
  | alreadyExists => "[Errno 17] File exists"
  | notDirectory => "[Errno 20] Not a directory"
  | isDirectory => "[Errno 21] Is a directory"
  | nameTooLong => "[Errno 36] File name too long"

/-- What is said about the error at a path, which is shown between quotes. -/
def FileError.messageAt (e : FileError) (path : String) : String :=
  e.message ++ ": " ++ Text.quotedString path

/-- Why a file cannot be opened: an error on the way to it, or a NUL in its path. -/
inductive OpenError where
  | file (e : FileError)
  | nul
  deriving DecidableEq

/-- What is said about a NUL in a path. -/
def nulMessage : String := "embedded null byte"

/-! ## Routes -/

/-- A step of a route: within a directory, to the directory around it, or to one of its entries. -/
inductive Step where
  | stay
  | up
  | into (name : String)
  deriving DecidableEq

/-- The step that a component stands for. -/
def Step.ofComponent (s : String) : Step :=
  if s = "" ∨ s = "." then stay else if s = ".." then up else into s

/-- Steps from the current directory, or from the top, and the number of bytes that the route takes as text. -/
structure Route where
  fromTop : Bool
  steps : List Step
  size : Nat
  deriving DecidableEq

namespace Route

/-- The route of a path as it is written. The empty text leads nowhere. -/
def ofString (s : String) : Route :=
  if s = "" then ⟨false, [.into ""], 0⟩
  else
    ⟨s.toList.head? == some '/', (splitSlashes s.toList).map fun part => Step.ofComponent (String.ofList part),
      s.utf8ByteSize⟩

/-- The least number of bytes that is too many for a route. -/
def sizeLimit : Nat := 4096

/-- Whether a name on the route holds a NUL. -/
def hasNul (r : Route) : Bool :=
  r.steps.any fun step => match step with
    | .into name => name.toList.contains '\x00'
    | _ => false

/-- The route without its last step. -/
def init (r : Route) : Route :=
  { r with steps := r.steps.dropLast }

end Route

/-- The route of a path. -/
def Path.route (p : Path) : Route :=
  ⟨p.anchor != .relative, p.parts.map Step.ofComponent, p.text.utf8ByteSize⟩

/-! ## Where a route leads -/

namespace FileTree

/-- The names that steps lead to from the directory at the given names. The directory around the top is the top. -/
def follow (t : FileTree) : List String → List Step → Except FileError (List String)
  | names, [] => .ok names
  | names, step :: steps =>
    match t.get? names with
    | none => .error .notFound
    | some (.file _) => .error .notDirectory
    | some (.directory entries) =>
      match step with
      | .stay => t.follow names steps
      | .up => t.follow names.dropLast steps
      | .into name =>
        if (findEntry name entries).isSome then t.follow (names ++ [name]) steps
        else if name.utf8ByteSize > nameLimit then .error .nameTooLong
        else .error .notFound

/-- The names that a route leads to. -/
def locate (t : FileTree) (r : Route) : Except FileError (List String) :=
  if Route.sizeLimit ≤ r.size then .error .nameTooLong
  else t.follow (if r.fromTop then [] else t.here) r.steps

/-- The node that a route leads to, if it leads anywhere. Only of a name that is too long there is no telling. -/
def nodeAt? (t : FileTree) (r : Route) : Except FileError (Option Node) :=
  if r.hasNul then .ok none
  else
    match t.locate r with
    | .ok names => .ok (t.get? names)
    | .error .nameTooLong => .error .nameTooLong
    | .error _ => .ok none

/-- Whether a route leads to a directory. -/
def isDirectory (t : FileTree) (r : Route) : Bool :=
  match t.nodeAt? r with
  | .ok (some node) => node.isDirectory
  | _ => false

/-- Whether a route leads anywhere. -/
def holds (t : FileTree) (r : Route) : Bool :=
  match t.nodeAt? r with
  | .ok (some _) => true
  | _ => false

/-- The names and the bytes of the file that a route leads to. -/
def fileAt (t : FileTree) (r : Route) : Except FileError (List String × List UInt8) :=
  match t.locate r with
  | .error e => .error e
  | .ok names =>
    match t.get? names with
    | some (.file content) => .ok (names, content)
    | some (.directory _) => .error .isDirectory
    | none => .error .notFound

/-- The same for a route that may have a NUL in a name. -/
def openFile (t : FileTree) (r : Route) : Except OpenError (List String × List UInt8) :=
  if r.hasNul then .error .nul else (t.fileAt r).mapError .file

/-- The bytes of the file that a route leads to. -/
def read (t : FileTree) (r : Route) : Except OpenError (List UInt8) :=
  (t.openFile r).map (·.2)

/-! ## Names that are no text -/

/-- A name with a NUL for each surrogate that stands for a byte. The name may have no NUL of its own, and no other
surrogate. -/
def withNuls? : List CodePoint → Option (List Char)
  | [] => some []
  | p :: s =>
    let c := if p.isEscape then some '\x00' else p.char?.filter (· != '\x00')
    c.bind fun c => (withNuls? s).map (c :: ·)

/-- The text with the given code points in place of its NULs, in order. -/
def fillNuls : List CodePoint → List Char → List CodePoint
  | _, [] => []
  | [], c :: s => .ofChar c :: fillNuls [] s
  | p :: ps, c :: s => if c = '\x00' then p :: fillNuls ps s else .ofChar c :: fillNuls (p :: ps) s

/-- The path of a name with surrogates, if it is too long for telling whether anything is there. Like a NUL, a surrogate
is taken to stand in the name of no entry, and takes one byte. -/
def overlong? (t : FileTree) (name : List CodePoint) : Option (List CodePoint) :=
  (withNuls? name).bind fun s =>
    let p := Path.ofString (String.ofList s)
    match t.locate p.route with
    | .error .nameTooLong => some (fillNuls (name.filter CodePoint.isEscape) p.text.toList)
    | _ => none

/-! ## New files and directories -/

/-- The names of what the last step of a route would make: an entry that is missing in a directory. -/
def missingAt? (t : FileTree) (r : Route) : Option (List String) :=
  match t.locate r.init, r.steps.getLast? with
  | .ok names, some (.into name) =>
    match t.get? names with
    | some (.directory entries) => if (findEntry name entries).isNone then some (names ++ [name]) else none
    | _ => none
  | _, _ => none

/-- The tree with the given bytes in the file that a route leads to, or in a new file if only that file is missing. -/
def write (t : FileTree) (r : Route) (content : List UInt8) : Except FileError FileTree :=
  match t.fileAt r with
  | .ok (names, _) => .ok (t.setFile names content)
  | .error .notFound =>
    match t.missingAt? r with
    | some names => .ok (t.addFile names content)
    | none => .error .notFound
  | .error e => .error e

/-- The tree with a new directory where a route leads, if only that directory is missing. -/
def makeDirectory (t : FileTree) (r : Route) : Except FileError FileTree :=
  match t.locate r with
  | .ok _ => .error .alreadyExists
  | .error .notFound =>
    match t.missingAt? r with
    | some names => .ok (t.addDirectory names)
    | none => .error .notFound
  | .error e => .error e

/-- An error at the path, unless the path is a directory already. -/
def unlessDirectory (t : FileTree) (p : Path) (e : FileError) : Option (FileError × Path) :=
  if t.isDirectory p.route then none else some (e, p)

/-- The tree with a directory at the path and directories on the way to it, as far as they are missing, and the first
path that could not be made, if there is one. Directories that were made before it stay. -/
def makeDirectories (t : FileTree) (p : Path) : FileTree × Option (FileError × Path) :=
  match t.makeDirectory p.route with
  | .ok t => (t, none)
  | .error .notFound =>
    if _h : p.parts = [] then (t, some (.notFound, p))
    else
      match t.makeDirectories p.parent with
      | (t, some e) => (t, some e)
      | (t, none) =>
        match t.makeDirectory p.route with
        | .ok t => (t, none)
        | .error .notFound => (t, some (.notFound, p))
        | .error e => (t, t.unlessDirectory p e)
  | .error e => (t, t.unlessDirectory p e)
termination_by p.parts.length
decreasing_by
  have := List.length_pos_iff.2 _h
  simp only [Path.parent, List.length_dropLast]
  omega

/-- The number of directories on the way to the path that are tried before the one at the path can be made. -/
def missingAbove (t : FileTree) (p : Path) : Nat :=
  match t.makeDirectory p.route with
  | .error .notFound => if _h : p.parts = [] then 0 else t.missingAbove p.parent + 1
  | _ => 0
termination_by p.parts.length
decreasing_by
  have := List.length_pos_iff.2 _h
  simp only [Path.parent, List.length_dropLast]
  omega

end FileTree

end BracketSpacing
