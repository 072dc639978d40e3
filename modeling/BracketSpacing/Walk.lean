import BracketSpacing.FileTree.Access
import BracketSpacing.Settings.Basic

/-!
# Walking a directory

* `Selection.takes`: whether a file is taken, by its extension and by texts that its path may not hold.
* `Scope`: a selection, and how many directories deep a walk can go.
* `Node.entriesListing`: the paths of all that is below a directory, in the order in which the entries come up.
* `namesLe` puts them in order, and `FileTree.keepTaken` looks each of them up and keeps the files that are taken.
* `FileTree.walk`: the files below a path that are taken, however deep they lie. `FileTree.isTooDeep`: whether the walk
  comes to a directory that lies too deep for it.

A directory whose path is too long cannot be listed, and of an entry whose path is too long there is no telling what it
is. Either ends the walk with the error and the path.
-/

namespace BracketSpacing

open Text (CodePoint pointsOf points)

/-- Whether a text occurs in another. -/
def occursIn {α : Type} [BEq α] (pattern : List α) : List α → Bool
  | [] => pattern.isEmpty
  | c :: s => pattern.isPrefixOf (c :: s) || occursIn pattern s

theorem occursIn_iff {α : Type} [BEq α] [LawfulBEq α] {pattern s : List α} :
    occursIn pattern s = true ↔ pattern <:+: s := by
  induction s with
  | nil => simp [occursIn]
  | cons c s ih => rw [occursIn, Bool.or_eq_true, ih, List.isPrefixOf_iff_prefix, List.infix_cons_iff]

namespace Selection

/-- Whether the path holds one of the texts that exclude a file. -/
def skips (s : Selection) (p : Path) : Bool :=
  s.skipPatterns.any fun pattern => occursIn pattern (pointsOf p.text)

/-- Whether the suffix of the path is one of the extensions, whatever their case and their leading dots. -/
def hasExtension (s : Selection) (p : Path) : Bool :=
  s.extensions.any fun extension => Path.plainExtension extension == Path.plainExtension (points p.suffix)

/-- Whether the file at the path is taken. -/
def takes (s : Selection) (p : Path) : Bool :=
  s.hasExtension p && !s.skips p

end Selection

/-- Which files a run takes, and how many directories deep its walks can go: by default, as deep as a stack of 1000
calls lets them. -/
structure Scope extends Selection where
  levels : Nat := 985

/-! ## Listing -/

namespace Node

mutual

/-- The paths of all that is below a node at the path. -/
def listing (p : Path) : Node → Except (FileError × Path) (List Path)
  | file _ => .ok []
  | directory entries => if Route.sizeLimit ≤ p.route.size then .error (.nameTooLong, p) else entriesListing p entries

/-- The paths of the entries of a directory at the path, each with those of all that is below it. -/
def entriesListing (p : Path) : List (String × Node) → Except (FileError × Path) (List Path)
  | [] => .ok []
  | (name, node) :: entries => do
    let below ← node.listing (p.append [name])
    let others ← entriesListing p entries
    return p.append [name] :: below ++ others

end

mutual

/-- Whether the first directory that a listing cannot enter lies deeper than so many levels, if there is one that it
cannot enter. The other reason is a path that is too long. -/
def tooDeep? (levels : Nat) (p : Path) : Node → Option Bool
  | file _ => none
  | directory entries =>
    match levels with
    | 0 => some true
    | levels + 1 => if Route.sizeLimit ≤ p.route.size then some false else entriesTooDeep? levels p entries

/-- The same for the entries of a directory at the path. -/
def entriesTooDeep? (levels : Nat) (p : Path) : List (String × Node) → Option Bool
  | [] => none
  | (name, node) :: entries => (node.tooDeep? levels (p.append [name])).or (entriesTooDeep? levels p entries)

end

end Node

/-! ## Walking -/

namespace FileTree

/-- The files at the paths that the selection takes. -/
def keepTaken (t : FileTree) (s : Selection) : List Path → Except (FileError × Path) (List Path)
  | [] => .ok []
  | p :: paths =>
    match t.nodeAt? p.route with
    | .error e => .error (e, p)
    | .ok (some (.file _)) => (t.keepTaken s paths).map fun others => if s.takes p then p :: others else others
    | .ok _ => t.keepTaken s paths

/-- The files below the directory at the path that the selection takes, in the order of their components. There are none
below what is no directory. -/
def walk (t : FileTree) (s : Selection) (p : Path) : Except (FileError × Path) (List Path) :=
  match t.nodeAt? p.route with
  | .error e => .error (e, p)
  | .ok (some (.directory entries)) => do
    let paths ← Node.entriesListing p entries
    t.keepTaken s (paths.mergeSort fun a b => namesLe a.parts b.parts)
  | .ok _ => .ok []

/-- Whether a walk from the path comes to a directory that lies deeper below it than so many levels. -/
def isTooDeep (t : FileTree) (levels : Nat) (p : Path) : Bool :=
  match t.nodeAt? p.route with
  | .ok (some (.directory entries)) => Node.entriesTooDeep? levels p entries == some true
  | _ => false

end FileTree

end BracketSpacing
