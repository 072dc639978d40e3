import BracketSpacing.Settings.MemberOrder
import BracketSpacing.Text.Base64
import BracketSpacing.Yaml.Merge
import BracketSpacing.Yaml.Number

/-!
# The value of a document

* `Builder`: the parts of a document that are built from the nodes of a graph. A collection is built in two steps: it is
  met first and filled later, in the order in which collections were met, so that it can hold itself.
* `Builder.value`: the value that a node stands for.
* `Builder.fill`: the items or entries of a collection.
* `load`: the document in the bytes of a file; an empty text has the value null.
-/

namespace BracketSpacing.Yaml

open Text (CodePoint pointsOf)

/-! ## Texts -/

/-- The truth value of a word, whatever its case. -/
def truthValue (text : List CodePoint) : Except Error Value :=
  let word := Text.lowercase text
  let isAmong (words : List String) : Bool := words.any fun w => pointsOf w == word
  if isAmong trueWords then .ok (.bool true)
  else if isAmong falseWords then .ok (.bool false)
  else .error (.unknownWord word)

/-- The bytes that a text writes. -/
def bytesValue (text : List CodePoint) : Except Error Value :=
  if text.any fun p => 0x80 ≤ p.value then .error .malformed
  else
    match (Text.chars? text).bind Text.Base64.decode? with
    | some bytes => .ok (.bytes bytes)
    | none => .error .malformed

/-- The date or moment that a text writes. -/
def timestampValue (text : List CodePoint) : Except Error Value :=
  match (Text.chars? text).bind fun s => Timestamp.ofText? (Text.dropFinalBreak s) with
  | none => .error .noTimestamp
  | some t => (t.value.mapError .calendar).map fun v => match v with
    | .inl d => .date d
    | .inr m => .moment m

/-- The value of a text of the given kind, which stands at the node of the given number. -/
def textValue (n : Nat) (text : List CodePoint) : Tag → Except Error Value
  | .null => .ok .null
  | .bool => truthValue text
  | .int => wholeValue text
  | .float => decimalValue n text
  | .timestamp => timestampValue text
  | .text => .ok (.text text)
  | .bytes => bytesValue text
  | _ => .error .malformed

/-- The value of a node that is no collection. -/
def leafValue (g : Graph) (n : Nat) : Except Error Value := do
  match g.tag n, (g.node n).content with
  | .merge, _ | .default, _ | .unknown, _ => throw .malformed
  | .timestamp, .mapping _ =>
    let _ ← g.scalarText n
    throw .timestampOfMapping
  | tag, _ => textValue n (← g.scalarText n) tag

/-! ## Entries -/

/-- The whole number that a floating point number is, if it is one. -/
def wholeOf? (f : Float) : Option Int :=
  if f.isNaN || f.isInf then none
  else
    let b := Decimal.Binary.ofFloat f
    let scale := Nat.pow 2 (-b.q).toNat
    if b.m % scale != 0 then none
    else
      let n : Int := b.m / scale * Nat.pow 2 b.q.toNat
      some (if f < 0 then -n else n)

/-- The whole number that a value is equal to, if there is one. True counts as one and false as zero. -/
def asWhole? : Value → Option Int
  | .bool b => some (if b then 1 else 0)
  | .int i => some i
  | .float f => wholeOf? f
  | _ => none

/-- Whether two values are the same key. Numbers are the same if they are equal. -/
def sameKey (a b : Value) : Bool :=
  match asWhole? a, asWhole? b with
  | some i, some j => i == j
  | some _, none | none, some _ => false
  | none, none =>
    match a, b with
    | .null, .null => true
    | .float f, .float g => f == g
    | .nan o, .nan p => o == p
    | .text s, .text t => s == t
    | .bytes s, .bytes t => s == t
    | .date d, .date e => d == e
    | .moment m, .moment k => m.same k
    | _, _ => false

/-- The entries with a value for a key: in the place of that key if it is there, at the end otherwise. -/
def insertEntry (key value : Value) : List (Value × Value) → List (Value × Value)
  | [] => [(key, value)]
  | (k, v) :: entries =>
    if sameKey k key then (k, value) :: entries else (k, v) :: insertEntry key value entries

/-- Whether a value can be a key: collections cannot. -/
def canBeKey : Value → Bool
  | .part _ => false
  | _ => true

/-! ## Building -/

/-- The nodes, the parts that are built from them under the same numbers, and those that were met in order. The parts of
pairs have numbers beyond all nodes. -/
structure Builder where
  graph : Graph
  /-- A bound on the number of merge keys. -/
  merges : Nat
  parts : Array Value
  met : Array Bool
  queue : Array Nat := #[]

namespace Builder

/-- The builder of a graph of which nothing is built. -/
def start (g : Graph) : Builder :=
  { graph := g, merges := g.countEntries, parts := g.map fun _ => .null, met := g.map fun _ => false }

/-- The value that a node stands for. A collection is a part that is filled later. -/
def value (b : Builder) (n : Nat) : Except Error (Value × Builder) :=
  if (b.graph.tag n).isCollection then
    if b.met[n]?.getD true then .ok (.part n, b)
    else .ok (.part n, { b with met := b.met.modify n fun _ => true, queue := b.queue.push n })
  else (leafValue b.graph n).map (·, b)

/-- The builder with a part built. -/
def setPart (b : Builder) (n : Nat) (v : Value) : Builder :=
  { b with parts := b.parts.modify n fun _ => v }

/-- The values of items. -/
def values (b : Builder) : List Nat → Except Error (List Value × Builder)
  | [] => .ok ([], b)
  | n :: items => do
    let (v, b) ← b.value n
    let (vs, b) ← b.values items
    return (v :: vs, b)

/-- The entries of a mapping, after those that are there already. -/
def entriesFrom (b : Builder) (done : List (Value × Value)) :
    List (Nat × Nat) → Except Error (List (Value × Value) × Builder)
  | [] => .ok (done, b)
  | (key, n) :: entries => do
    let (k, b) ← b.value key
    if !canBeKey k then throw .malformed
    let (v, b) ← b.value n
    b.entriesFrom (insertEntry k v done) entries

/-- The entries of a node, which must be a mapping. -/
def entries (b : Builder) (n : Nat) : Except Error (List (Value × Value) × Builder) := do
  if (b.graph.entries? n).isNone then throw .malformed
  let graph ← b.graph.flatten b.merges n
  { b with graph := graph }.entriesFrom [] ((graph.entries? n).getD [])

/-- The pairs that mappings with one entry each stand for. -/
def pairs (b : Builder) : List Nat → Except Error (List Value × Builder)
  | [] => .ok ([], b)
  | n :: items =>
    match b.graph.entries? n with
    | some [(key, m)] => do
      let (k, b) ← b.value key
      let (v, b) ← b.value m
      let pair := b.parts.size
      let (others, b) ← { b with parts := b.parts.push (.pair k v) }.pairs items
      return (.part pair :: others, b)
    | _ => .error .malformed

/-- The builder with a collection filled, of a kind that its node may not have. -/
def fill (b : Builder) (n : Nat) : Except Error Builder := do
  match b.graph.tag n, (b.graph.node n).content with
  | .mapping, _ =>
    let (entries, b) ← b.entries n
    return b.setPart n (.map entries)
  | .set, _ =>
    let (entries, b) ← b.entries n
    return b.setPart n (.set (memberOrder (entries.map (·.1))))
  | .sequence, .sequence items =>
    let (items, b) ← b.values items
    return b.setPart n (.list items)
  | .orderedMap, .sequence items | .pairs, .sequence items =>
    let (items, b) ← b.pairs items
    return b.setPart n (.list items)
  | _, _ => throw .malformed

/-- The builder with all collections filled that are met from a place in the queue on. Every node is met once. -/
def fillFrom (place : Nat) : (fuel : Nat) → Builder → Except Error Builder
  | 0, b => .ok b
  | fuel + 1, b =>
    match b.queue[place]? with
    | none => .ok b
    | some n => do fillFrom (place + 1) fuel (← b.fill n)

end Builder

/-! ## Documents -/

/-- The document of a graph and its root. -/
def Graph.document (g : Graph) (root : Nat) : Except Error Document := do
  let (v, b) ← (Builder.start g).value root
  let b ← b.fillFrom 0 (g.size + 1)
  return ⟨v, b.parts⟩

/-- The document in the bytes of a file. -/
def load (bytes : List UInt8) : Except Error Document := do
  match ← Graph.ofTokens? (Tokens.ofSource (← Source.ofBytes bytes)) with
  | some (root, g) => g.document root
  | none => return ⟨.null, #[]⟩

end BracketSpacing.Yaml
