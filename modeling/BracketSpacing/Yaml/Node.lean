import BracketSpacing.Yaml.Tag
import BracketSpacing.Yaml.Token

/-!
# Nodes of a document

* `Node`: a text or a collection with its kind. Collections name the nodes in them by number, so that a node can stand
  in several places and even within itself.
* `Graph`: the nodes of a document.
* `Graph.ofTokens?`: the graph that the tokens of a document describe, and the number of its root; none if there is no
  document.

Reading goes down the tokens with an amount of fuel that bounds how often a reader calls another; eight times the number
of tokens and a few more are always enough. A text that fails does so when a token beyond the last one is looked at.
-/

namespace BracketSpacing.Yaml

open Text (CodePoint)

/-- What a node holds. -/
inductive Content where
  | scalar (text : List CodePoint)
  | sequence (items : List Nat)
  | mapping (entries : List (Nat × Nat))

/-- A node: its kind and what it holds. -/
structure Node where
  tag : Tag
  content : Content

/-- The nodes of a document by their numbers. -/
abbrev Graph := Array Node

namespace Node

/-- The node that stands where nothing is written. -/
def absent : Node :=
  ⟨.null, .scalar []⟩

/-- A text. What kind it is, is left to the text where no tag says it, or a tag says so. -/
def ofText (tag : Option String) (text : List CodePoint) (isPlain : Bool) : Node :=
  let kind := match tag with
    | none => if isPlain then .ofPlain text else .text
    | some "!" => .ofPlain text
    | some name => .ofName name
  ⟨kind, .scalar text⟩

/-- A collection. Only a tag that is a name says what kind it is. -/
def ofCollection (tag : Option String) (untagged : Tag) (content : Content) : Node :=
  let kind := match tag with
    | none => untagged
    | some "!" => untagged
    | some name => .ofName name
  ⟨kind, content⟩

end Node

/-! ## Readers -/

/-- The tokens that are left, how the text fails after them, the nodes so far, the numbers of those that have names, and
what tag handles stand for. -/
structure Reader where
  tokens : List Token
  failure : Option Error
  handles : List (String × String)
  nodes : Graph := #[]
  names : List (String × Nat) := []

namespace Reader

/-- The next token. There is none at the end. -/
def peek (r : Reader) : Except Error (Option Token) :=
  match r.tokens, r.failure with
  | t :: _, _ => .ok (some t)
  | [], some e => .error e
  | [], none => .ok none

/-- The reader after its first token. -/
def advance (r : Reader) : Reader :=
  { r with tokens := r.tokens.drop 1 }

/-- Whether the next token is of the given kind. -/
def nextIs (r : Reader) (p : Token → Bool) : Except Error Bool :=
  r.peek.map (·.any p)

/-- What the tag stands for: its handle is replaced by the beginning that it stands for. -/
def fullTag (r : Reader) (handle : Option String) (suffix : String) : Except Error String :=
  match handle with
  | none => .ok suffix
  | some h =>
    match r.handles.find? (·.1 == h) with
    | some (_, opening) => .ok (opening ++ suffix)
    | none => .error .malformed

/-- The tag and the anchor in front of a node, in either order. -/
def properties (r : Reader) : Except Error ((Option String × Option String) × Reader) := do
  match ← r.peek with
  | some (.anchor name) =>
    let r := r.advance
    match ← r.peek with
    | some (.tag handle suffix) => return ((some (← r.fullTag handle suffix), some name), r.advance)
    | _ => return ((none, some name), r)
  | some (.tag handle suffix) =>
    let r := r.advance
    match ← r.peek with
    | some (.anchor name) => return ((some (← r.fullTag handle suffix), some name), r.advance)
    | _ => return ((some (← r.fullTag handle suffix), none), r)
  | _ => return ((none, none), r)

/-- The reader with one more node, which may have a name, and the number of that node. -/
def add (r : Reader) (anchor : Option String) (node : Node) : Nat × Reader :=
  let n := r.nodes.size
  let names := match anchor with
    | some name => (name, n) :: r.names
    | none => r.names
  (n, { r with nodes := r.nodes.push node, names := names })

/-- The reader in which a node holds something else. -/
def setContent (r : Reader) (n : Nat) (content : Content) : Reader :=
  { r with nodes := r.nodes.modify n fun node => { node with content := content } }

/-- A node where nothing is written. -/
def addAbsent (r : Reader) : Nat × Reader :=
  r.add none .absent

end Reader

/-! ## Kinds of tokens -/

namespace Token

/-- Whether a node that would stand before this token in a block is absent: the block ends or goes on here. -/
def endsBlockNode : Token → Bool
  | key | value | blockEnd => true
  | _ => false

/-- The same for an item of a block sequence. -/
def endsBlockItem : Token → Bool
  | blockEntry | blockEnd => true
  | _ => false

/-- The same for an item of a sequence that is not indented. -/
def endsFlushItem : Token → Bool
  | blockEntry | key | value | blockEnd => true
  | _ => false

/-- The same for a key between brackets. -/
def endsFlowKey (closing : Token → Bool) : Token → Bool
  | value | flowEntry => true
  | t => closing t

/-- The same for a value between brackets. -/
def endsFlowValue (closing : Token → Bool) : Token → Bool
  | flowEntry => true
  | t => closing t

/-- Whether the token is a hyphen before an item. -/
def isBlockEntry : Token → Bool
  | blockEntry => true
  | _ => false

/-- Whether the token is a key mark. -/
def isKey : Token → Bool
  | key => true
  | _ => false

/-- Whether the token is a value mark. -/
def isValue : Token → Bool
  | value => true
  | _ => false

/-- Whether the token is a comma between brackets. -/
def isFlowEntry : Token → Bool
  | flowEntry => true
  | _ => false

/-- Whether the token ends a block. -/
def isBlockEnd : Token → Bool
  | blockEnd => true
  | _ => false

/-- Whether the token closes a sequence between brackets. -/
def isSequenceEnd : Token → Bool
  | flowSequenceEnd => true
  | _ => false

/-- Whether the token closes a mapping between brackets. -/
def isMappingEnd : Token → Bool
  | flowMappingEnd => true
  | _ => false

/-- Whether nothing of a document's content can start here. -/
def endsDocument : Token → Bool
  | directive _ | documentStart | documentEnd => true
  | _ => false

/-- Whether the token ends a document. -/
def isDocumentEnd : Token → Bool
  | documentEnd => true
  | _ => false

end Token

/-! ## Reading nodes -/

/-- The reader after a comma between brackets. -/
def afterComma (r : Reader) : Except Error Reader := do
  if ← r.nextIs Token.isFlowEntry then return r.advance else throw .malformed

mutual

/-- A node with its properties. Blocks may start here if `block` is set, and a sequence that is not indented if `flush`
is. No name is taken twice. -/
def readNode (fuel : Nat) (block flush : Bool) (r : Reader) : Except Error (Nat × Reader) :=
  match fuel with
  | 0 => .error .malformed
  | fuel + 1 => do
    match ← r.peek with
    | some (.alias name) =>
      match r.names.find? (·.1 == name) with
      | some (_, n) => return (n, r.advance)
      | none => throw .malformed
    | _ =>
      let ((tag, anchor), r) ← r.properties
      let token ← r.peek
      if anchor.any fun name => r.names.any (·.1 == name) then throw .malformed
      readContent fuel block flush tag anchor token r

/-- What follows the properties of a node, from the given token on. -/
def readContent (fuel : Nat) (block flush : Bool) (tag anchor : Option String) (token : Option Token) (r : Reader) :
    Except Error (Nat × Reader) :=
  match fuel with
  | 0 => .error .malformed
  | fuel + 1 =>
    let sequence := Node.ofCollection tag .sequence (.sequence [])
    let mapping := Node.ofCollection tag .mapping (.mapping [])
    match token with
    | some (.scalar text isPlain) => .ok (r.advance.add anchor (.ofText tag text isPlain))
    | some .flowSequence => do
      let (n, r) := r.advance.add anchor sequence
      let (items, r) ← readFlowItems fuel true r
      return (n, r.setContent n (.sequence items))
    | some .flowMapping => do
      let (n, r) := r.advance.add anchor mapping
      let (entries, r) ← readFlowEntries fuel true r
      return (n, r.setContent n (.mapping entries))
    | some .blockSequence =>
      if block then do
        let (n, r) := r.advance.add anchor sequence
        let (items, r) ← readItems fuel Token.endsBlockItem r
        if ← r.nextIs Token.isBlockEnd then return (n, r.advance.setContent n (.sequence items))
        else throw .malformed
      else .error .malformed
    | some .blockMapping =>
      if block then do
        let (n, r) := r.advance.add anchor mapping
        let (entries, r) ← readEntries fuel r
        return (n, r.setContent n (.mapping entries))
      else .error .malformed
    | _ =>
      if flush && token.any Token.isBlockEntry then do
        let (n, r) := r.add anchor sequence
        let (items, r) ← readItems fuel Token.endsFlushItem r
        return (n, r.setContent n (.sequence items))
      else if tag.isSome || anchor.isSome then .ok (r.add anchor (.ofText tag [] true))
      else .error .malformed

/-- Items with a hyphen each. The items end where no hyphen stands. -/
def readItems (fuel : Nat) (isEmpty : Token → Bool) (r : Reader) : Except Error (List Nat × Reader) :=
  match fuel with
  | 0 => .error .malformed
  | fuel + 1 => do
    if ← r.nextIs Token.isBlockEntry then
      let (item, r) ← readUnless fuel true false isEmpty r.advance
      let (items, r) ← readItems fuel isEmpty r
      return (item :: items, r)
    else return ([], r)

/-- The entries of a block mapping, through its end. -/
def readEntries (fuel : Nat) (r : Reader) : Except Error (List (Nat × Nat) × Reader) :=
  match fuel with
  | 0 => .error .malformed
  | fuel + 1 => do
    if ← r.nextIs Token.isBlockEnd then return ([], r.advance)
    else if ← r.nextIs Token.isKey then
      let (key, r) ← readUnless fuel true true Token.endsBlockNode r.advance
      let (value, r) ← readValueNode fuel true true Token.endsBlockNode r
      let (entries, r) ← readEntries fuel r
      return ((key, value) :: entries, r)
    else throw .malformed

/-- The value after a value mark, if there is one. -/
def readValueNode (fuel : Nat) (block flush : Bool) (isEmpty : Token → Bool) (r : Reader) :
    Except Error (Nat × Reader) :=
  match fuel with
  | 0 => .error .malformed
  | fuel + 1 => do
    if ← r.nextIs Token.isValue then readUnless fuel block flush isEmpty r.advance else return r.addAbsent

/-- A node, unless the next token shows that it is absent. -/
def readUnless (fuel : Nat) (block flush : Bool) (isEmpty : Token → Bool) (r : Reader) : Except Error (Nat × Reader) :=
  match fuel with
  | 0 => .error .malformed
  | fuel + 1 => do
    if ← r.nextIs isEmpty then return r.addAbsent else readNode fuel block flush r

/-- The items of a sequence between brackets, through the closing bracket. An item may be a single entry. -/
def readFlowItems (fuel : Nat) (first : Bool) (r : Reader) : Except Error (List Nat × Reader) :=
  match fuel with
  | 0 => .error .malformed
  | fuel + 1 => do
    if ← r.nextIs Token.isSequenceEnd then return ([], r.advance)
    let r ← if first then pure r else afterComma r
    if ← r.nextIs Token.isSequenceEnd then return ([], r.advance)
    let (item, r) ←
      if ← r.nextIs Token.isKey then do
        let (n, r) := r.advance.add none (.ofCollection none .mapping (.mapping []))
        let (key, r) ← readUnless fuel false false (Token.endsFlowKey Token.isSequenceEnd) r
        let (value, r) ← readValueNode fuel false false (Token.endsFlowValue Token.isSequenceEnd) r
        pure (n, r.setContent n (.mapping [(key, value)]))
      else readNode fuel false false r
    let (items, r) ← readFlowItems fuel false r
    return (item :: items, r)

/-- The entries of a mapping between brackets, through the closing bracket. -/
def readFlowEntries (fuel : Nat) (first : Bool) (r : Reader) : Except Error (List (Nat × Nat) × Reader) :=
  match fuel with
  | 0 => .error .malformed
  | fuel + 1 => do
    if ← r.nextIs Token.isMappingEnd then return ([], r.advance)
    let r ← if first then pure r else afterComma r
    if ← r.nextIs Token.isMappingEnd then return ([], r.advance)
    let (entry, r) ←
      if ← r.nextIs Token.isKey then do
        let (key, r) ← readUnless fuel false false (Token.endsFlowKey Token.isMappingEnd) r.advance
        let (value, r) ← readValueNode fuel false false (Token.endsFlowValue Token.isMappingEnd) r
        pure ((key, value), r)
      else do
        let (key, r) ← readNode fuel false false r
        let (value, r) := r.addAbsent
        pure ((key, value), r)
    let (entries, r) ← readFlowEntries fuel false r
    return (entry :: entries, r)

end

/-! ## Reading a document -/

/-- The handles that need no directive. -/
def defaultHandles : List (String × String) :=
  [("!", "!"), ("!!", "tag:yaml.org,2002:")]

/-- What directives at the head of a document say: whether the version is given, and what handles stand for. -/
structure Head where
  versionGiven : Bool := false
  handles : List (String × String) := []

/-- The head with one more directive. The version may be given once and must be the first, and no handle is given
twice. -/
def Head.add (h : Head) : Directive → Except Error Head
  | .version major =>
    if h.versionGiven || major != 1 then .error .malformed else .ok { h with versionGiven := true }
  | .handle handle opening =>
    if h.handles.any (·.1 == handle) then .error .malformed
    else .ok { h with handles := (handle, opening) :: h.handles }
  | .other => .ok h

/-- The reader after the directives and the mark at the head of a document, with its handles. -/
def readHead (fuel : Nat) (h : Head) (r : Reader) : Except Error Reader :=
  match fuel with
  | 0 => .error .malformed
  | fuel + 1 => do
    match ← r.peek with
    | some (.directive d) => readHead fuel (← h.add d) r.advance
    | some .documentStart => return { r.advance with handles := h.handles ++ defaultHandles }
    | _ => throw .malformed

/-- The reader after all marks that end a document. -/
def afterEnds (fuel : Nat) (r : Reader) : Except Error Reader :=
  match fuel with
  | 0 => .ok r
  | fuel + 1 => do
    if ← r.nextIs Token.isDocumentEnd then afterEnds fuel r.advance else return r

namespace Graph

/-- The content of a document whose head has been read. There must be no further document, not even one that cannot be
read. -/
def ofContent (explicit : Bool) (r : Reader) : Except Error (Nat × Graph) := do
  let fuel := 8 * r.tokens.length + 16
  let token ← r.peek
  let (root, r) ←
    if explicit && (token.isNone || token.any Token.endsDocument) then pure r.addAbsent
    else readNode fuel true false r
  let r ← afterEnds fuel r
  match ← r.peek with
  | none => return (root, r.nodes)
  | some _ =>
    let _ ← readHead fuel {} r
    throw .malformed

/-- The graph of the only document and the number of its root, if there is a document. -/
def ofTokens? (tokens : Tokens) : Except Error (Option (Nat × Graph)) := do
  let r : Reader := ⟨tokens.tokens, tokens.failure, defaultHandles, #[], []⟩
  match ← r.peek with
  | none => return none
  | some (.directive _) => return some (← ofContent true (← readHead (tokens.tokens.length + 1) {} r))
  | some .documentStart => return some (← ofContent true r.advance)
  | some _ => return some (← ofContent false r)

end Graph

end BracketSpacing.Yaml
