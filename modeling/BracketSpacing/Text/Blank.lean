/-!
# Blank and trimmable characters

* `isBlank`: the white space that ends of a text are stripped of.
* `isInvisible`: three characters that are no white space but are trimmed along with it.
* `isTrimmable`: either of the two.
-/

namespace BracketSpacing.Text

/-- White space: the ASCII controls U+0009–000D and U+001C–001F, the space, U+0085, and the space and line separators
beyond ASCII. -/
def isBlank (c : Char) : Bool :=
  let n := c.toNat
  (0x09 ≤ n && n ≤ 0x0D) || (0x1C ≤ n && n ≤ 0x20) || n == 0x85 || n == 0xA0 || n == 0x1680 ||
    (0x2000 ≤ n && n ≤ 0x200A) || n == 0x2028 || n == 0x2029 || n == 0x202F || n == 0x205F || n == 0x3000

/-- NUL, the vowel separator U+180E and the byte order mark take no room on a line and are trimmed like white space. -/
def isInvisible (c : Char) : Bool :=
  let n := c.toNat
  n == 0 || n == 0x180E || n == 0xFEFF

/-- A character that may go when the interior of a bracket is trimmed. -/
def isTrimmable (c : Char) : Bool :=
  isBlank c || isInvisible c

end BracketSpacing.Text
