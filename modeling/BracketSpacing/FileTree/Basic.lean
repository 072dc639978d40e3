/-!
# File trees

* `Node`: a file with its bytes, or a directory with named entries.
* `FileTree`: the entries of the top directory, in which every name is a proper name and no directory has two entries
  of one name, and the names that lead to the current directory.
* `Node.get?`: the node at a list of names, and `Node.files`: all files below a node with their names.
* `FileTree.setFile`: other bytes for a file that is there; `FileTree.add`: a new node, with directories made on the
  way to it.
-/

namespace BracketSpacing

/-! ## Nodes -/

/-- A file or a directory. -/
inductive Node where
  | file (content : List UInt8)
  | directory (entries : List (String × Node))

/-- The greatest number of bytes of a name. -/
def nameLimit : Nat := 255

/-- Whether a name can be an entry's: it is not empty, neither one dot nor two, not too long, and has no slash and no
NUL. -/
def isEntryName (name : String) : Bool :=
  name != "" && name != "." && name != ".." && name.utf8ByteSize ≤ nameLimit && !name.toList.contains '/' &&
    !name.toList.contains '\x00'

/-- The node of an entry. -/
def findEntry (name : String) : List (String × Node) → Option Node
  | [] => none
  | (n, node) :: entries => if n = name then some node else findEntry name entries

mutual

/-- Whether all names below a node are proper and none occurs twice in a directory. -/
def Node.valid : Node → Bool
  | .file _ => true
  | .directory entries => validEntries entries

/-- The same for the entries of a directory. -/
def validEntries : List (String × Node) → Bool
  | [] => true
  | (name, node) :: entries =>
    isEntryName name && !entries.any (·.1 == name) && node.valid && validEntries entries

end

namespace Node

/-- Whether the node is a directory. -/
def isDirectory : Node → Bool
  | directory _ => true
  | file _ => false

/-- The node that a list of names leads to from here. -/
def get? : Node → List String → Option Node
  | node, [] => some node
  | file _, _ :: _ => none
  | directory entries, name :: names => (findEntry name entries).bind fun node => node.get? names

mutual

/-- The files at and below a node, each with the names that lead to it and its bytes. -/
def files : Node → List (List String × List UInt8)
  | file content => [([], content)]
  | directory entries => entryFiles entries

/-- The files at and below the entries of a directory. -/
def entryFiles : List (String × Node) → List (List String × List UInt8)
  | [] => []
  | (name, node) :: entries => node.files.map (fun (names, content) => (name :: names, content)) ++ entryFiles entries

end

end Node

/-! ## Changing entries -/

/-- The entries with one entry changed, or added at the end if there is none of that name. -/
def alterEntry (name : String) (f : Option Node → Node) : List (String × Node) → List (String × Node)
  | [] => [(name, f none)]
  | (n, node) :: entries =>
    if n = name then (n, f (some node)) :: entries else (n, node) :: alterEntry name f entries

/-- The entries with one entry changed, if there is one of that name. -/
def modifyEntry (name : String) (f : Node → Node) : List (String × Node) → List (String × Node)
  | [] => []
  | (n, node) :: entries => if n = name then (n, f node) :: entries else (n, node) :: modifyEntry name f entries

namespace Node

/-- The node with other bytes for the file at the given names, if a file is there. -/
def setFile (content : List UInt8) : List String → Node → Node
  | [], file _ => file content
  | [], directory entries => directory entries
  | _ :: _, file old => file old
  | name :: names, directory entries => directory (modifyEntry name (setFile content names) entries)

/-- The node with a new node at the given names and directories on the way where there is nothing. -/
def add (new : Node) : List String → Node → Node
  | [], _ => new
  | _ :: _, file content => file content
  | name :: names, directory entries =>
    directory (alterEntry name (fun old => add new names (old.getD (directory []))) entries)

end Node

/-! ## Changes keep trees valid -/

theorem any_modifyEntry (name other : String) (f : Node → Node) (entries : List (String × Node)) :
    (modifyEntry name f entries).any (·.1 == other) = entries.any (·.1 == other) := by
  induction entries with
  | nil => rfl
  | cons e entries ih =>
    obtain ⟨n, node⟩ := e
    unfold modifyEntry
    split <;> simp [ih]

theorem any_alterEntry {name other : String} (h : name ≠ other) (f : Option Node → Node)
    (entries : List (String × Node)) :
    (alterEntry name f entries).any (·.1 == other) = entries.any (·.1 == other) := by
  induction entries with
  | nil => simp [alterEntry, h]
  | cons e entries ih =>
    obtain ⟨n, node⟩ := e
    unfold alterEntry
    split <;> simp [ih]

theorem validEntries_modifyEntry {name : String} {f : Node → Node} {entries : List (String × Node)}
    (hf : ∀ node : Node, node.valid = true → (f node).valid = true) (h : validEntries entries = true) :
    validEntries (modifyEntry name f entries) = true := by
  induction entries with
  | nil => rfl
  | cons e entries ih =>
    obtain ⟨n, node⟩ := e
    simp only [validEntries, Bool.and_eq_true] at h
    unfold modifyEntry
    split
    · simp only [validEntries, Bool.and_eq_true]
      exact ⟨⟨h.1.1, hf _ h.1.2⟩, h.2⟩
    · simp only [validEntries, Bool.and_eq_true, any_modifyEntry]
      exact ⟨h.1, ih h.2⟩

theorem validEntries_alterEntry {name : String} {f : Option Node → Node} {entries : List (String × Node)}
    (hname : isEntryName name = true) (hnone : (f none).valid = true)
    (hsome : ∀ node : Node, node.valid = true → (f (some node)).valid = true) (h : validEntries entries = true) :
    validEntries (alterEntry name f entries) = true := by
  induction entries with
  | nil => simp [alterEntry, validEntries, hname, hnone]
  | cons e entries ih =>
    obtain ⟨n, node⟩ := e
    simp only [validEntries, Bool.and_eq_true] at h
    unfold alterEntry
    split
    · simp only [validEntries, Bool.and_eq_true]
      exact ⟨⟨h.1.1, hsome _ h.1.2⟩, h.2⟩
    · next hne =>
      simp only [validEntries, Bool.and_eq_true, any_alterEntry (Ne.symm hne)]
      exact ⟨h.1, ih h.2⟩

theorem Node.valid_setFile (content : List UInt8) (names : List String) :
    ∀ node : Node, node.valid = true → (node.setFile content names).valid = true := by
  induction names with
  | nil => intro node h; cases node <;> simp_all [setFile, valid]
  | cons name names ih =>
    intro node h
    cases node with
    | file old => exact h
    | directory entries =>
      simp only [setFile, valid] at h ⊢
      exact validEntries_modifyEntry ih h

theorem Node.valid_add {new : Node} (hnew : new.valid = true) {names : List String}
    (hnames : names.all isEntryName = true) :
    ∀ node : Node, node.valid = true → (add new names node).valid = true := by
  induction names with
  | nil => intro _ _; exact hnew
  | cons name names ih =>
    simp only [List.all_cons, Bool.and_eq_true] at hnames
    intro node h
    cases node with
    | file old => exact h
    | directory entries =>
      simp only [add, valid] at h ⊢
      exact validEntries_alterEntry hnames.1 (ih hnames.2 _ rfl) (fun node hn => ih hnames.2 _ hn) h

/-! ## Trees -/

/-- All files and directories, and the directory that relative paths start from. -/
structure FileTree where
  entries : List (String × Node)
  /-- The names that lead from the top to the current directory. -/
  here : List String
  entries_valid : validEntries entries = true

namespace FileTree

/-- The top directory. -/
def root (t : FileTree) : Node :=
  .directory t.entries

/-- The node at the given names. -/
def get? (t : FileTree) (names : List String) : Option Node :=
  t.root.get? names

/-- All files with the names that lead to them. -/
def files (t : FileTree) : List (List String × List UInt8) :=
  t.root.files

/-- The tree with other bytes for the file at the given names, if a file is there. -/
def setFile (t : FileTree) (names : List String) (content : List UInt8) : FileTree :=
  match names with
  | [] => t
  | name :: names => ⟨modifyEntry name (Node.setFile content names) t.entries, t.here,
      validEntries_modifyEntry (Node.valid_setFile content names) t.entries_valid⟩

/-- The tree with a new node at the given names, and directories on the way to it where there is nothing. A name that is
none, or a file on the way, leaves the tree as it is. -/
def add (t : FileTree) (names : List String) (new : Node) (hnew : new.valid = true) : FileTree :=
  match names with
  | [] => t
  | name :: names =>
    if h : (name :: names).all isEntryName = true then
      have h' : isEntryName name = true ∧ names.all isEntryName = true := by simpa using h
      ⟨alterEntry name (fun old => Node.add new names (old.getD (.directory []))) t.entries, t.here,
        validEntries_alterEntry h'.1 (Node.valid_add hnew h'.2 _ rfl) (fun node hn => Node.valid_add hnew h'.2 _ hn)
          t.entries_valid⟩
    else t

/-- The tree with a file at the given names, new or in place of what was there. -/
def addFile (t : FileTree) (names : List String) (content : List UInt8) : FileTree :=
  t.add names (.file content) rfl

/-- The tree with an empty directory at the given names, unless something is there. -/
def addDirectory (t : FileTree) (names : List String) : FileTree :=
  if (t.get? names).isSome then t else t.add names (.directory []) rfl

/-- The tree that holds nothing but the current directory. -/
def empty (here : List String) : FileTree :=
  addDirectory ⟨[], here, rfl⟩ here

end FileTree

end BracketSpacing
