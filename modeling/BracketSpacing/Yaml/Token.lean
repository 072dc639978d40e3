import BracketSpacing.Yaml.Scalar
import BracketSpacing.Yaml.Source

/-!
# Tokens of a document

* `Token`: a mark of structure, a property or a text.
* `Tokens`: the tokens that can be told before a text fails, and how it fails if it does.
* `Tokens.ofSource`: the tokens of a document.

Blocks are told by indentation: `Layout` holds the columns of the blocks that are open and, for every open bracket, the
token that would be a key if a colon followed it on the same line. When that colon comes, a key mark goes in front of
the token.
-/

namespace BracketSpacing.Yaml

open Text (CodePoint)

/-! ## Tokens -/

/-- A directive at the head of a document. -/
inductive Directive where
  /-- The version of the language that the document is in. -/
  | version (major : Int)
  /-- A handle that stands for a beginning of tags. -/
  | handle (handle opening : String)
  /-- Any other directive, which does not matter. -/
  | other

/-- A token. A tag comes as a handle, if it has one, and a suffix. -/
inductive Token where
  | directive (d : Directive)
  | documentStart
  | documentEnd
  | blockSequence
  | blockMapping
  | blockEnd
  | flowSequence
  | flowSequenceEnd
  | flowMapping
  | flowMappingEnd
  | blockEntry
  | flowEntry
  | key
  | value
  | alias (name : String)
  | anchor (name : String)
  | tag (handle : Option String) (suffix : String)
  | scalar (text : List CodePoint) (isPlain : Bool)

/-! ## Properties and directives -/

/-- The longest run of characters of a class, and what follows. -/
def readRun (p : Char → Bool) (text : List Glyph) : String × List Glyph :=
  (String.ofList ((text.takeWhile fun g => p g.char).map (·.char)), text.dropWhile fun g => p g.char)

/-- What follows blanks. -/
def afterBlanks (text : List Glyph) : List Glyph :=
  text.dropWhile (·.char == ' ')

/-- The name of an anchor or an alias, after its mark. -/
def readName (text : List Glyph) : Except Error (String × List Glyph) :=
  let (name, rest) := readRun isNameChar text
  if name.isEmpty || !(startsSpace rest || headIs ("?:,]\x7d%@\x60".toList.contains ·) rest) then
    .error (errorAt rest)
  else .ok (name, rest)

/-- Whether a character may stand in a tag, percent signs apart. -/
def isTagChar (c : Char) : Bool :=
  c.isAlphanum || "-;/?:@&=+$,_.!~*'()[]".toList.contains c

/-- The byte that a percent sign and two hexadecimal digits write. -/
def readTagByte : List Glyph → Except Error (UInt8 × List Glyph)
  | a :: b :: s =>
    match Text.hexDigit? a.char, Text.hexDigit? b.char with
    | some m, some n => .ok (UInt8.ofNat (16 * m + n), s)
    | _, _ => .error .malformed
  | [a] => .error (if (Text.hexDigit? a.char).isSome then .unfinished else .malformed)
  | [] => .error .unfinished

/-- The characters of a tag, after some bytes of it that are not decoded yet. -/
def readTagChars (bytes : List UInt8) (text : List Glyph) : Except Error (List Char × List Glyph) :=
  match text with
  | [] => (decodeTagBytes bytes).map fun cs => (cs, [])
  | g :: s =>
    if g.char = '%' then
      match readTagByte s with
      | .error e => .error e
      | .ok (b, rest) =>
        if _h : rest.length < (g :: s).length then readTagChars (bytes ++ [b]) rest else .error .malformed
    else do
      let cs ← decodeTagBytes bytes
      if isTagChar g.char then
        let (more, rest) ← readTagChars [] s
        return (cs ++ g.char :: more, rest)
      else return (cs, g :: s)
termination_by text.length
decreasing_by all_goals (simp only [List.length_cons] at *; omega)
where
  /-- The text of bytes. -/
  decodeTagBytes (bytes : List UInt8) : Except Error (List Char) :=
    (Text.Utf8.decode bytes).mapError fun _ => .malformed

/-- The characters of a tag, of which there must be one. -/
def readTagSuffix (text : List Glyph) : Except Error (String × List Glyph) := do
  let (cs, rest) ← readTagChars [] text
  if cs.isEmpty then throw (errorAt rest)
  return (String.ofList cs, rest)

/-- A tag handle: an exclamation mark, or a name between two of them. -/
def readHandle (text : List Glyph) : Except Error (String × List Glyph) :=
  match text with
  | g :: s =>
    if g.char ≠ '!' then .error .malformed
    else
      let (name, rest) := readRun isNameChar s
      match rest with
      | h :: rest' =>
        if h.char = '!' then .ok ("!" ++ name ++ "!", rest')
        else if name.isEmpty && h.char == ' ' then .ok ("!", rest)
        else .error .malformed
      | [] => .error .unfinished
  | [] => .error .unfinished

/-- Whether a second exclamation mark follows before the tag ends. -/
def hasHandle (text : List Glyph) : Bool :=
  (text.takeWhile fun g => g.char != ' ' && !isBreak g.char).any (·.char == '!')

/-- A tag, after its exclamation mark: one between angle brackets, a single mark, or a handle and a suffix. -/
def readTag (mark : Glyph) (text : List Glyph) : Except Error (Token × List Glyph) := do
  let (tag, rest) ←
    if headIs (· == '<') text then do
      let (suffix, rest) ← readTagSuffix (text.drop 1)
      if headIs (· == '>') rest then pure (Token.tag none suffix, rest.drop 1) else throw (errorAt rest)
    else if startsSpace text then pure (Token.tag none "!", text)
    else if hasHandle text then do
      let (handle, rest) ← readHandle (mark :: text)
      let (suffix, rest) ← readTagSuffix rest
      pure (Token.tag (some handle) suffix, rest)
    else do
      let (suffix, rest) ← readTagSuffix text
      pure (Token.tag (some "!") suffix, rest)
  if startsBlankOrBreak rest then return (tag, rest) else throw .malformed

/-- A number of a version. -/
def readVersionNumber (text : List Glyph) : Except Error (Int × List Glyph) :=
  let (digits, rest) := readRun Char.isDigit text
  if digits.isEmpty then .error (errorAt rest)
  else ((Text.wholeNumber 10 (Text.pointsOf digits)).mapError .numeral).map (·, rest)

/-- A directive, after its percent sign. -/
def readDirective (text : List Glyph) : Except Error (Token × List Glyph) := do
  let (name, rest) := readRun isNameChar text
  if name.isEmpty || !startsBlankOrBreak rest then throw (errorAt rest)
  let (directive, rest) ←
    if name = "YAML" then do
      let (major, rest) ← readVersionNumber (afterBlanks rest)
      if !headIs (· == '.') rest then throw (errorAt rest)
      let (_, rest) ← readVersionNumber (rest.drop 1)
      pure (Directive.version major, rest)
    else if name = "TAG" then do
      let (handle, rest) ← readHandle (afterBlanks rest)
      if !headIs (· == ' ') rest then throw (errorAt rest)
      let (opening, rest) ← readTagSuffix (afterBlanks rest)
      pure (Directive.handle handle opening, rest)
    else pure (Directive.other, rest.dropWhile fun g => !isBreak g.char)
  if !startsBlankOrBreak rest then throw .malformed
  let rest ← afterEmptyLine false rest
  return (.directive directive, rest)

/-! ## Layout -/

/-- A token that is a key if a colon follows it: the number of tokens before it and its position. Where nothing else
may stand, it is required to be a key. -/
structure PossibleKey where
  tokensBefore : Nat
  required : Bool
  index : Nat
  line : Nat
  column : Nat

/-- What has been read so far. Tokens, columns and possible keys come last first; there is one place for a possible key
outside all brackets and one for every open bracket. -/
structure Layout where
  tokens : List Token := []
  /-- The number of tokens. -/
  count : Nat := 0
  indent : Int := -1
  outer : List Int := []
  keys : Option PossibleKey := none
  outerKeys : List (Option PossibleKey) := []
  /-- Whether a key may start here. -/
  keyAllowed : Bool := true

namespace Layout

/-- Whether a bracket is open. -/
def inFlow (l : Layout) : Bool :=
  !l.outerKeys.isEmpty

/-- One more token. -/
def emit (l : Layout) (t : Token) : Layout :=
  { l with tokens := t :: l.tokens, count := l.count + 1 }

/-- One more token before the last ones, so that a given number stand before it. -/
def insertAt (l : Layout) (before : Nat) (t : Token) : Layout :=
  let later := l.count - before
  { l with tokens := l.tokens.take later ++ t :: l.tokens.drop later, count := l.count + 1 }

/-- Whether a possible key is none any more: it stands on another line or too far back. -/
def isStale (g : Glyph) (k : PossibleKey) : Bool :=
  k.line != g.line || g.index - k.index > 1024

/-- The possible key, unless it is none any more. A required key must not go. -/
def freshKey (g : Glyph) : Option PossibleKey → Except Error (Option PossibleKey)
  | none => .ok none
  | some k => if isStale g k then if k.required then .error .malformed else .ok none else .ok (some k)

/-- The layout without possible keys that are none any more. -/
def dropStale (l : Layout) (g : Glyph) : Except Error Layout := do
  let keys ← freshKey g l.keys
  let outerKeys ← l.outerKeys.mapM (freshKey g)
  return { l with keys := keys, outerKeys := outerKeys }

/-- The layout without the last possible key. -/
def dropKey (l : Layout) : Except Error Layout :=
  match l.keys with
  | some k => if k.required then .error .malformed else .ok { l with keys := none }
  | none => .ok l

/-- The next token is a possible key if a key may start here. -/
def saveKey (l : Layout) (g : Glyph) : Except Error Layout :=
  if l.keyAllowed then do
    let required := !l.inFlow && l.indent == g.column
    let l ← l.dropKey
    return { l with keys := some ⟨l.count, required, g.index, g.line, g.column⟩ }
  else .ok l

/-- The layout with the blocks closed that stand further in than the column, of which the outer ones are given. -/
def closeBlocks (column : Int) : (outer : List Int) → Layout → Layout
  | [], l => l
  | i :: outer, l =>
    if l.indent > column then closeBlocks column outer { l.emit .blockEnd with indent := i, outer := outer } else l

/-- The layout at a column: blocks that stand further in are closed, unless a bracket is open. -/
def unwind (l : Layout) (column : Int) : Layout :=
  if l.inFlow then l else closeBlocks column l.outer l

/-- The layout with a block at the column, and whether it is a new one. -/
def openBlock (l : Layout) (column : Int) : Bool × Layout :=
  if l.indent < column then (true, { l with indent := column, outer := l.indent :: l.outer }) else (false, l)

/-- The layout where a block of the given kind must go on or start at the column. -/
def enterBlock (l : Layout) (g : Glyph) (start : Token) : Except Error Layout :=
  if l.inFlow then .ok l
  else if !l.keyAllowed then .error .malformed
  else
    match l.openBlock g.column with
    | (true, l) => .ok (l.emit start)
    | (false, l) => .ok l

/-! ## Reading one token -/

/-- An opening bracket. -/
def openBracket (l : Layout) (g : Glyph) (t : Token) : Except Error Layout := do
  let l ← l.saveKey g
  return { l.emit t with keys := none, outerKeys := l.keys :: l.outerKeys, keyAllowed := true }

/-- A closing bracket. -/
def closeBracket (l : Layout) (t : Token) : Except Error Layout := do
  let l ← l.dropKey
  match l.outerKeys with
  | keys :: outerKeys => return { l.emit t with keys := keys, outerKeys := outerKeys, keyAllowed := false }
  | [] => throw .malformed

/-- A comma between brackets. -/
def readFlowEntry (l : Layout) : Except Error Layout := do
  let l ← { l with keyAllowed := true }.dropKey
  return l.emit .flowEntry

/-- A hyphen before an item. -/
def readBlockEntry (l : Layout) (g : Glyph) : Except Error Layout := do
  let l ← l.enterBlock g .blockSequence
  let l ← { l with keyAllowed := true }.dropKey
  return l.emit .blockEntry

/-- A question mark before a key. -/
def readKey (l : Layout) (g : Glyph) : Except Error Layout := do
  let l ← l.enterBlock g .blockMapping
  let l ← { l with keyAllowed := !l.inFlow }.dropKey
  return l.emit .key

/-- A colon before a value. -/
def readValue (l : Layout) (g : Glyph) : Except Error Layout := do
  match l.keys with
  | some k =>
    let l := { l with keys := none }.insertAt k.tokensBefore .key
    let l := if l.inFlow then l
      else match l.openBlock k.column with
        | (true, l) => l.insertAt k.tokensBefore .blockMapping
        | (false, l) => l
    return { l with keyAllowed := false }.emit .value
  | none =>
    let l ← l.enterBlock g .blockMapping
    return { l with keyAllowed := !l.inFlow }.emit .value

/-- A document marker or a directive, which closes all blocks. -/
def closeDocument (l : Layout) : Except Error Layout := do
  let l ← (l.unwind (-1)).dropKey
  return { l with keyAllowed := false }

/-- A token that may be a key, read after its first character. -/
def readKeyToken (l : Layout) (g : Glyph) (read : Except Error (Token × List Glyph)) :
    Except Error (Layout × List Glyph) := do
  let l ← l.saveKey g
  let (t, rest) ← read
  return ({ l with keyAllowed := false }.emit t, rest)

/-- Whether a plain text starts with this character. -/
def startsPlain (l : Layout) (g : Glyph) (s : List Glyph) : Bool :=
  (!isSpace g.char && !"-?:,[]\x7b\x7d#&*!|>'\"%@\x60".toList.contains g.char) ||
    (!startsSpace s && (g.char == '-' || (!l.inFlow && (g.char == '?' || g.char == ':'))))

/-- The next token, which starts with the given character, and what follows it. -/
def next (l : Layout) (g : Glyph) (s : List Glyph) : Except Error (Layout × List Glyph) := do
  let c := g.char
  if g.column == 0 && c == '%' then
    let l ← l.closeDocument
    let (t, rest) ← readDirective s
    return (l.emit t, rest)
  else if g.column == 0 && startsMarker (g :: s) then
    let l ← l.closeDocument
    return (l.emit (if c == '-' then .documentStart else .documentEnd), s.drop 2)
  else if c == '[' then return (← l.openBracket g .flowSequence, s)
  else if c == '\x7b' then return (← l.openBracket g .flowMapping, s)
  else if c == ']' then return (← l.closeBracket .flowSequenceEnd, s)
  else if c == '\x7d' then return (← l.closeBracket .flowMappingEnd, s)
  else if c == ',' then return (← l.readFlowEntry, s)
  else if c == '-' && startsSpace s then return (← l.readBlockEntry g, s)
  else if c == '?' && (l.inFlow || startsSpace s) then return (← l.readKey g, s)
  else if c == ':' && (l.inFlow || startsSpace s) then return (← l.readValue g, s)
  else if c == '*' then l.readKeyToken g ((readName s).map fun (name, rest) => (.alias name, rest))
  else if c == '&' then l.readKeyToken g ((readName s).map fun (name, rest) => (.anchor name, rest))
  else if c == '!' then l.readKeyToken g (readTag g s)
  else if (c == '|' || c == '>') && !l.inFlow then
    let l ← { l with keyAllowed := true }.dropKey
    let (text, rest) ← readBlock (c == '>') l.indent s
    return (l.emit (.scalar (Text.points text) false), rest)
  else if c == '\'' || c == '"' then
    l.readKeyToken g ((readQuoted (c == '"') s).map fun (text, rest) => (.scalar text false, rest))
  else if l.startsPlain g s then
    let plain := readPlain l.inFlow (l.indent + 1) (g :: s)
    let (l, rest) ← l.readKeyToken g (.ok (.scalar (Text.points plain.chars) true, plain.rest))
    return ({ l with keyAllowed := plain.crossed }, rest)
  else throw .malformed

/-- The next token, which starts with the given character after a gap that may cross a line. Keys that are none any more
are dropped in front of the token and behind it. -/
def step (l : Layout) (crossed : Bool) (g : Glyph) (s : List Glyph) : Except Error (Layout × List Glyph) := do
  let l ← { l with keyAllowed := l.keyAllowed || (crossed && !l.inFlow) }.dropStale g
  let (l, rest) ← (l.unwind g.column).next g s
  match rest with
  | h :: _ => return (← l.dropStale h, rest)
  | [] => return (l, [])

/-- The number of tokens that nothing can come before any more. -/
def settled (l : Layout) : Nat :=
  (l.keys :: l.outerKeys).foldl (fun n key => match key with
    | some k => if k.tokensBefore < n then k.tokensBefore else n
    | none => n) l.count

end Layout

/-! ## All tokens -/

/-- Tokens, and how the text fails after them, if it does. -/
structure Tokens where
  tokens : List Token
  failure : Option Error

/-- The tokens before a failure: those that nothing can come before any more. -/
def Layout.failed (l : Layout) (e : Error) : Tokens :=
  ⟨l.tokens.reverse.take l.settled, some e⟩

/-- The tokens of a text that goes on from the given layout. The text may break off in the end: then what follows cannot
be read, and neither can a token that reaches this far. -/
def readTokens (breakage : Option Error) (l : Layout) (text : List Glyph) : Tokens :=
  match _h : afterGap false false text with
  | (_, []) =>
    match breakage, l.closeDocument with
    | some e, _ => l.failed e
    | none, .error e => l.failed e
    | none, .ok l => ⟨l.tokens.reverse, none⟩
  | (crossed, g :: s) =>
    match l.step crossed g s with
    | .error .unfinished => l.failed (breakage.getD .unfinished)
    | .error e => l.failed e
    | .ok (next, rest) =>
      match breakage, rest with
      | some e, [] => l.failed e
      | some e, [_] => l.failed e
      | _, _ => if _hr : rest.length < text.length then readTokens breakage next rest else l.failed .malformed
termination_by text.length
decreasing_by exact _hr

/-- The tokens of a text that may break off. -/
def Tokens.ofSource (source : Source) : Tokens :=
  readTokens source.breakage {} (glyphs source.text)

end BracketSpacing.Yaml
