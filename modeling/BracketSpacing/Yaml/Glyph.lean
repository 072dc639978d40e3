import BracketSpacing.Yaml.Error

/-!
# Characters of a document with their positions

* `Glyph`: a character with its index, line and column; `glyphs` gives those of a text.
* `afterGap`: what follows blanks, line breaks and comments.
* `startsMarker`: whether a document marker stands here.
-/

namespace BracketSpacing.Yaml

/-! ## Classes of characters -/

/-- Whether a character may stand in a document. -/
def isAllowed (c : Char) : Bool :=
  let n := c.toNat
  n == 0x09 || n == 0x0A || n == 0x0D || (0x20 ≤ n && n ≤ 0x7E) || n == 0x85 || (0xA0 ≤ n && n ≤ 0xD7FF) ||
    (0xE000 ≤ n && n ≤ 0xFFFD) || 0x10000 ≤ n

/-- Whether a character ends a line. -/
def isBreak (c : Char) : Bool :=
  c == '\n' || c == '\r' || c == '\u0085' || c == '\u2028' || c == '\u2029'

/-- Whether a character is a blank, a tab or a line break. -/
def isSpace (c : Char) : Bool :=
  c == ' ' || c == '\t' || isBreak c

/-- The line break that a text keeps for a line break of the document. -/
def keptBreak (c : Char) : Char :=
  if c == '\u2028' || c == '\u2029' then c else '\n'

/-- Letters, digits, hyphen and underscore of ASCII. -/
def isNameChar (c : Char) : Bool :=
  c.isAlphanum || c == '-' || c == '_'

/-! ## Positions -/

/-- A character and where it stands. -/
structure Glyph where
  char : Char
  index : Nat
  line : Nat
  column : Nat

/-- The characters of a text whose first one stands at the given position. A byte order mark takes no column. -/
def glyphsFrom (index line column : Nat) : List Char → List Glyph
  | [] => []
  | c :: s =>
    ⟨c, index, line, column⟩ ::
      (if isBreak c then glyphsFrom (index + 1) (line + 1) 0 s
      else glyphsFrom (index + 1) line (if c = '\uFEFF' then column else column + 1) s)

/-- The characters of a document, without a byte order mark before them. -/
def glyphs : List Char → List Glyph
  | '\uFEFF' :: s => glyphsFrom 1 0 0 s
  | s => glyphsFrom 0 0 0 s

/-- The error of a text that cannot go on like this, or of one that has to go on and does not. -/
def errorAt (text : List Glyph) : Error :=
  if text.isEmpty then .unfinished else .malformed

/-- Whether the text starts with a character of the class. -/
def headIs (p : Char → Bool) : List Glyph → Bool
  | [] => false
  | g :: _ => p g.char

/-- Whether nothing but space follows, or the end. -/
def startsSpace : List Glyph → Bool
  | [] => true
  | g :: _ => isSpace g.char

/-- Whether a line end follows, or a blank, or the end. -/
def startsBlankOrBreak : List Glyph → Bool
  | [] => true
  | g :: _ => g.char == ' ' || isBreak g.char

/-- Whether three hyphens or three dots stand here, with space or the end after them. -/
def startsMarker : List Glyph → Bool
  | a :: b :: c :: s =>
    ((a.char == '-' && b.char == '-' && c.char == '-') || (a.char == '.' && b.char == '.' && c.char == '.')) &&
      startsSpace s
  | _ => false

/-- What follows blanks, comments and line breaks, and whether there was a line break. -/
def afterGap (inComment crossed : Bool) : List Glyph → Bool × List Glyph
  | [] => (crossed, [])
  | g :: s =>
    if isBreak g.char then afterGap false true s
    else if inComment then afterGap true crossed s
    else if g.char = ' ' then afterGap false crossed s
    else if g.char = '#' then afterGap true crossed s
    else (crossed, g :: s)

/-- What follows the rest of a line that holds nothing but blanks and a comment. -/
def afterEmptyLine (inComment : Bool) : List Glyph → Except Error (List Glyph)
  | [] => .ok []
  | g :: s =>
    if isBreak g.char then .ok s
    else if inComment then afterEmptyLine true s
    else if g.char = ' ' then afterEmptyLine false s
    else if g.char = '#' then afterEmptyLine true s
    else .error .malformed

end BracketSpacing.Yaml
