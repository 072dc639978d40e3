import BracketSpacing.Yaml.Glyph

/-!
# Texts of a document

* `readPlain`: a text without quotes, over one line or more.
* `readQuoted`: a text between single or double quotes.
* `readBlock`: an indented block of lines, kept or folded.

Each gives the text that is meant and what follows it. Where a text runs over lines, one line break becomes a blank and
further ones stay.
-/

namespace BracketSpacing.Yaml

open Text (CodePoint)

/-- The characters that a line break and the breaks of empty lines after it stand for. -/
def foldBreaks (first : Char) (more : List Char) : List Char :=
  if first ≠ '\n' then first :: more else if more.isEmpty then [' '] else more

/-! ## Plain texts -/

/-- The longest run of characters that may stand in a plain text. -/
def plainRun (inFlow : Bool) : List Glyph → List Char × List Glyph
  | [] => ([], [])
  | g :: s =>
    let ends := isSpace g.char ||
      (g.char == ':' && (startsSpace s || (inFlow && headIs (",[]\x7b\x7d".toList.contains ·) s))) ||
      (inFlow && ",?[]\x7b\x7d".toList.contains g.char)
    if ends then ([], g :: s)
    else
      let run := plainRun inFlow s
      (g.char :: run.1, run.2)

/-- The breaks of empty lines, and what follows them. The flag says that a document marker was met, before which the
text ends. -/
def emptyLines : List Glyph → List Char × Bool × List Glyph
  | [] => ([], false, [])
  | g :: s =>
    if g.char = ' ' then emptyLines s
    else if isBreak g.char then
      if startsMarker s then ([keptBreak g.char], true, s)
      else
        let lines := emptyLines s
        (keptBreak g.char :: lines.1, lines.2)
    else ([], false, g :: s)

/-- What stands between two runs of a plain text. -/
structure PlainGap where
  /-- The characters that the gap stands for; nothing if the text ends here. -/
  chars : List Char
  /-- Whether the gap runs over a line break. -/
  crossed : Bool
  rest : List Glyph

/-- The gap at the front of a text. -/
def plainGap (text : List Glyph) : PlainGap :=
  let blanks := text.takeWhile (·.char == ' ')
  match text.dropWhile (·.char == ' ') with
  | [] => ⟨blanks.map (·.char), false, []⟩
  | g :: s =>
    if !isBreak g.char then ⟨blanks.map (·.char), false, g :: s⟩
    else if startsMarker s then ⟨[], true, s⟩
    else
      match emptyLines s with
      | (_, true, rest) => ⟨[], true, rest⟩
      | (more, false, rest) => ⟨foldBreaks (keptBreak g.char) more, true, rest⟩

/-- The rest of a plain text, which follows a run of it. -/
def plainTail (inFlow : Bool) (indent : Int) (text : List Glyph) : PlainGap :=
  let gap := plainGap text
  let outdented := match gap.rest with
    | g :: _ => !inFlow && (g.column : Int) < indent
    | [] => false
  if gap.chars.isEmpty || headIs (· == '#') gap.rest || outdented then ⟨[], gap.crossed, gap.rest⟩
  else
    let run := plainRun inFlow gap.rest
    if run.1.isEmpty then ⟨[], gap.crossed, gap.rest⟩
    else if _h : run.2.length < text.length then
      let tail := plainTail inFlow indent run.2
      ⟨gap.chars ++ run.1 ++ tail.chars, tail.crossed, tail.rest⟩
    else ⟨[], gap.crossed, gap.rest⟩
termination_by text.length

/-- A plain text, whether it ends in a gap over a line break, and what follows. Lines after the first are indented at
least so far. -/
def readPlain (inFlow : Bool) (indent : Int) (text : List Glyph) : PlainGap :=
  let run := plainRun inFlow text
  let tail := plainTail inFlow indent run.2
  ⟨run.1 ++ tail.chars, tail.crossed, tail.rest⟩

/-! ## Quoted texts -/

/-- White space in a quoted text, of which only what follows decides what it stands for. -/
inductive QuotedGap where
  /-- Blanks and tabs within a line. -/
  | blanks (chars : List Char)
  /-- Line breaks. -/
  | breaks (first : Char) (more : List Char)
  /-- An escaped line break and further ones. -/
  | escapedBreaks (more : List Char)

/-- What the white space stands for if the text goes on. -/
def QuotedGap.points : QuotedGap → List CodePoint
  | blanks chars => Text.points chars
  | breaks first more => Text.points (foldBreaks first more)
  | escapedBreaks more => Text.points more

/-- The white space with a line break after it. -/
def QuotedGap.addBreak (c : Char) : QuotedGap → QuotedGap
  | blanks _ => breaks (keptBreak c) []
  | breaks first more => breaks first (more ++ [keptBreak c])
  | escapedBreaks more => escapedBreaks (more ++ [keptBreak c])

/-- The white space with a blank or a tab after it. At the start of a line they do not count. -/
def QuotedGap.addBlank (c : Char) : QuotedGap → QuotedGap
  | blanks chars => blanks (chars ++ [c])
  | gap => gap

/-- What a backslash and one character stand for. -/
def simpleEscape? (c : Char) : Option Char :=
  match c with
  | '0' => some '\x00'
  | 'a' => some '\x07'
  | 'b' => some '\x08'
  | 't' => some '\t'
  | '\t' => some '\t'
  | 'n' => some '\n'
  | 'v' => some '\x0B'
  | 'f' => some '\x0C'
  | 'r' => some '\r'
  | 'e' => some '\x1B'
  | ' ' => some ' '
  | '"' => some '"'
  | '\\' => some '\\'
  | '/' => some '/'
  | 'N' => some '\u0085'
  | '_' => some '\u00A0'
  | 'L' => some '\u2028'
  | 'P' => some '\u2029'
  | _ => none

/-- The number of hexadecimal digits after a backslash and this character. -/
def escapeWidth? (c : Char) : Option Nat :=
  match c with
  | 'x' => some 2
  | 'u' => some 4
  | 'U' => some 8
  | _ => none

/-- The number that hexadecimal digits at the front of the text write, so many of them. -/
def readHex (value : Nat) : (width : Nat) → List Glyph → Except Error (Nat × List Glyph)
  | 0, s => .ok (value, s)
  | _ + 1, [] => .error .unfinished
  | width + 1, g :: s =>
    match Text.hexDigit? g.char with
    | some d => readHex (16 * value + d) width s
    | none => .error .malformed

/-- The code point of a number. -/
def codePointOf (n : Nat) : Except Error CodePoint :=
  match CodePoint.ofNat? n with
  | some p => .ok p
  | none => .error (if n < Nat.pow 2 31 then .codePoint else .hugeCodePoint)

/-- What follows an escape in a text between double quotes: a code point, or a line break that does not count. -/
def readEscape : List Glyph → Except Error (Option CodePoint × List Glyph)
  | [] => .error .unfinished
  | g :: s =>
    match simpleEscape? g.char, escapeWidth? g.char with
    | some c, _ => .ok (some (.ofChar c), s)
    | none, some width => do
      let (n, rest) ← readHex 0 width s
      let p ← codePointOf n
      return (some p, rest)
    | none, none =>
      if isBreak g.char then if startsMarker s then .error .malformed else .ok (none, s)
      else .error .malformed

/-- The text up to the closing quote, after white space that was read before. -/
def quotedFrom (double : Bool) (gap : QuotedGap) (text : List Glyph) : Except Error (List CodePoint × List Glyph) :=
  match text with
  | [] => .error .unfinished
  | g :: s =>
    if isBreak g.char then
      if startsMarker s then .error .malformed else quotedFrom double (gap.addBreak g.char) s
    else if g.char = ' ' ∨ g.char = '\t' then quotedFrom double (gap.addBlank g.char) s
    else if double && g.char == '"' then .ok (gap.points, s)
    else if double && g.char == '\\' then
      match readEscape s with
      | .error e => .error e
      | .ok (escaped, rest) =>
        if _h : rest.length < (g :: s).length then
          match escaped with
          | some p => (quotedFrom double (.blanks []) rest).map fun (ps, rest) => (gap.points ++ p :: ps, rest)
          | none => (quotedFrom double (.escapedBreaks []) rest).map fun (ps, rest) => (gap.points ++ ps, rest)
        else .error .malformed
    else if !double && g.char == '\'' then
      match s with
      | d :: s =>
        if d.char = '\'' then
          (quotedFrom double (.blanks []) s).map fun (ps, rest) => (gap.points ++ .ofChar '\'' :: ps, rest)
        else .ok (gap.points, d :: s)
      | [] => .ok (gap.points, [])
    else (quotedFrom double (.blanks []) s).map fun (ps, rest) => (gap.points ++ .ofChar g.char :: ps, rest)
termination_by text.length
decreasing_by all_goals (simp only [List.length_cons] at *; omega)

/-- A text whose opening quote has been read. -/
def readQuoted (double : Bool) (text : List Glyph) : Except Error (List CodePoint × List Glyph) :=
  quotedFrom double (.blanks []) text

/-! ## Block texts -/

/-- What becomes of the line breaks at the end of a block. -/
inductive Chomping where
  | strip
  | clip
  | keep
  deriving DecidableEq

/-- What the first line of a block says: what to chomp, and how far the block is indented, if it says so. -/
structure BlockHeader where
  chomping : Chomping
  indent : Option Nat

/-- The sign that a chomping is written with. -/
def chompingOf? (g : Glyph) : Option Chomping :=
  if g.char = '+' then some .keep else if g.char = '-' then some .strip else none

/-- The digit that an indentation is written with. -/
def indentOf? (g : Glyph) : Option Nat :=
  if g.char.isDigit then some (g.char.toNat - 0x30) else none

/-- The signs after the mark of a block, in either order, and what follows them. -/
def blockSigns : List Glyph → BlockHeader × List Glyph
  | [] => (⟨.clip, none⟩, [])
  | g :: s =>
    match chompingOf? g, indentOf? g with
    | some c, _ =>
      match s with
      | h :: rest => if (indentOf? h).isSome then (⟨c, indentOf? h⟩, rest) else (⟨c, none⟩, s)
      | [] => (⟨c, none⟩, [])
    | none, some n =>
      match s with
      | h :: rest =>
        match chompingOf? h with
        | some c => (⟨c, some n⟩, rest)
        | none => (⟨.clip, some n⟩, s)
      | [] => (⟨.clip, some n⟩, [])
    | none, none => (⟨.clip, none⟩, g :: s)

/-- The first line of a block, after the mark. -/
def blockHeader (text : List Glyph) : Except Error (BlockHeader × List Glyph) := do
  let (header, rest) := blockSigns text
  if header.indent = some 0 ∨ !startsBlankOrBreak rest then throw .malformed
  let rest ← afterEmptyLine false rest
  return (header, rest)

/-- The breaks of empty lines at the front of a block, the greatest column that blanks reach, and what follows. -/
def blockMargin : List Glyph → List Char × Nat × List Glyph
  | [] => ([], 0, [])
  | g :: s =>
    if g.char = ' ' then
      let margin := blockMargin s
      (margin.1, max (g.column + 1) margin.2.1, margin.2.2)
    else if isBreak g.char then
      let margin := blockMargin s
      (keptBreak g.char :: margin.1, margin.2)
    else ([], 0, g :: s)

/-- The breaks of empty lines within a block of the given indentation, and what follows the indentation after them. -/
def blockBreaks (indent : Int) : List Glyph → List Char × List Glyph
  | [] => ([], [])
  | g :: s =>
    if g.char = ' ' ∧ (g.column : Int) < indent then blockBreaks indent s
    else if isBreak g.char then
      let lines := blockBreaks indent s
      (keptBreak g.char :: lines.1, lines.2)
    else ([], g :: s)

/-- The lines of a block: their text, the last line break, the breaks of empty lines after it, and what follows. -/
structure BlockLines where
  chars : List Char
  lastBreak : List Char
  breaks : List Char
  rest : List Glyph

/-- Whether a line of the block starts here. -/
def startsBlockLine (indent : Int) : List Glyph → Bool
  | [] => false
  | g :: _ => (g.column : Int) == indent

/-- Whether a blank or a tab stands here. -/
def startsBlank (text : List Glyph) : Bool :=
  headIs (fun c => c == ' ' || c == '\t') text

/-- The lines of a block from here on, after the breaks of empty lines. -/
def blockLines (folded : Bool) (indent : Int) (breaks : List Char) (text : List Glyph) : BlockLines :=
  if !startsBlockLine indent text then ⟨[], [], breaks, text⟩
  else
    let line := text.takeWhile fun g => !isBreak g.char
    match _h : text.dropWhile fun g => !isBreak g.char with
    | [] => ⟨breaks ++ line.map (·.char), [], [], []⟩
    | b :: s =>
      let lineBreak := keptBreak b.char
      let more := blockBreaks indent s
      if _hm : more.2.length < text.length then
        if startsBlockLine indent more.2 then
          let joined := folded && lineBreak == '\n' && !startsBlank text && !startsBlank more.2
          let between := if joined then (if more.1.isEmpty then [' '] else []) else [lineBreak]
          let others := blockLines folded indent more.1 more.2
          ⟨breaks ++ line.map (·.char) ++ between ++ others.chars, others.lastBreak, others.breaks, others.rest⟩
        else ⟨breaks ++ line.map (·.char), [lineBreak], more.1, more.2⟩
      else ⟨breaks ++ line.map (·.char), [lineBreak], [], s⟩
termination_by text.length

/-- A block whose mark has been read, within a collection of the given indentation. -/
def readBlock (folded : Bool) (parentIndent : Int) (text : List Glyph) : Except Error (List Char × List Glyph) := do
  let (header, text) ← blockHeader text
  let least := max (parentIndent + 1) 1
  let lines := match header.indent with
    | some n =>
      let indent := least + n - 1
      let margin := blockBreaks indent text
      blockLines folded indent margin.1 margin.2
    | none =>
      let margin := blockMargin text
      blockLines folded (max least margin.2.1) margin.1 margin.2.2
  let ending := match header.chomping with
    | .strip => []
    | .clip => lines.lastBreak
    | .keep => lines.lastBreak ++ lines.breaks
  return (lines.chars ++ ending, lines.rest)

end BracketSpacing.Yaml
