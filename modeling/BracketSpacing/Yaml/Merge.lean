import BracketSpacing.Yaml.Node

/-!
# Merged entries

* `Graph.flatten`: the graph in which a mapping has the entries that its merge keys stand for in place of these keys.
* `Graph.scalarText`: the text of a node; a mapping stands for the text of its default.

The entries that are merged in stand before those of the mapping itself, so that the latter count more, and of several
mappings in one list the first counts most.
-/

namespace BracketSpacing.Yaml

open Text (CodePoint)

namespace Graph

/-- The node of a number. -/
def node (g : Graph) (n : Nat) : Node :=
  g[n]?.getD .absent

/-- The kind of a node. -/
def tag (g : Graph) (n : Nat) : Tag :=
  (g.node n).tag

/-- The entries of a node, if it is a mapping. -/
def entries? (g : Graph) (n : Nat) : Option (List (Nat × Nat)) :=
  match (g.node n).content with
  | .mapping entries => some entries
  | _ => none

/-- The graph with other entries in a mapping. -/
def setEntries (g : Graph) (n : Nat) (entries : List (Nat × Nat)) : Graph :=
  g.modify n fun node => { node with content := .mapping entries }

/-- The graph in which the default keys of entries are texts. -/
def textKeys (g : Graph) (entries : List (Nat × Nat)) : Graph :=
  entries.foldl (fun g (key, _) =>
    g.modify key fun node => if node.tag = .default then { node with tag := .text } else node) g

/-- The value of the first merge key of some entries, and the other entries. -/
def firstMerge? (g : Graph) : List (Nat × Nat) → Option (Nat × List (Nat × Nat))
  | [] => none
  | (key, v) :: entries =>
    if g.tag key = .merge then some (v, entries)
    else (g.firstMerge? entries).map fun (merged, others) => (merged, (key, v) :: others)

/-- The number of entries in all mappings. -/
def countEntries (g : Graph) : Nat :=
  g.foldl (fun count node => match node.content with
    | .mapping entries => count + entries.length
    | _ => count) 0

/-- The graph with the given mappings changed one after the other, and the entries of all of them, the last mapping
first. -/
def mergeAll (change : Nat → Graph → Except Error Graph) (g : Graph) :
    List Nat → Except Error (List (Nat × Nat) × Graph)
  | [] => .ok ([], g)
  | n :: mappings => do
    if (g.entries? n).isNone then throw .malformed
    let g ← change n g
    let entries := (g.entries? n).getD []
    let (others, g) ← mergeAll change g mappings
    return (others ++ entries, g)

/-- The mappings that the value of a merge key stands for: itself, or those that it lists. -/
def mergedMappings (g : Graph) (n : Nat) : Except Error (List Nat) :=
  match (g.node n).content with
  | .mapping _ => .ok [n]
  | .sequence items => .ok items
  | .scalar _ => .error .malformed

/-- The graph with the merge keys of a mapping replaced by what they stand for; there are at most `fuel` of them in all
mappings together. A mapping that is merged into itself gives the entries that it has by then. -/
def flatten (fuel : Nat) (n : Nat) (g : Graph) : Except Error Graph := do
  let entries := (g.entries? n).getD []
  match fuel, g.firstMerge? entries with
  | fuel + 1, some (merged, others) =>
    let g := g.setEntries n others
    let (above, g) ← mergeAll (flatten fuel) g (← g.mergedMappings merged)
    let g ← flatten fuel n g
    return g.setEntries n (above ++ (g.entries? n).getD [])
  | _, _ => return g.textKeys entries

/-- The text of a node, where at most `fuel` mappings lead on to their defaults. -/
def scalarTextWith (g : Graph) : (fuel : Nat) → Nat → Except Error (List CodePoint)
  | 0, _ => .error .endless
  | fuel + 1, n =>
    match (g.node n).content with
    | .scalar text => .ok text
    | .sequence _ => .error .malformed
    | .mapping entries =>
      match entries.find? fun (key, _) => g.tag key = .default with
      | some (_, v) => g.scalarTextWith fuel v
      | none => .error .malformed

/-- The text of a node: its own, or that of the default of a mapping. -/
def scalarText (g : Graph) (n : Nat) : Except Error (List CodePoint) :=
  g.scalarTextWith (g.size + 1) n

end Graph

end BracketSpacing.Yaml
