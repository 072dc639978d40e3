/-!
# Line breaks

* `unifyLineBreaks` writes every line break as a line feed: a carriage return together with a line feed after it, or a
  carriage return alone.
* `LineMode`: whether a stream does so.
* `dropFinalBreak` leaves out a line feed at the end.
-/

namespace BracketSpacing.Text

/-- The text with every line break written as a line feed. -/
def unifyLineBreaks : List Char → List Char
  | [] => []
  | '\r' :: '\n' :: s => '\n' :: unifyLineBreaks s
  | c :: s => (if c = '\r' then '\n' else c) :: unifyLineBreaks s

/-- What a stream makes of the line breaks of a text that is read from it. -/
inductive LineMode where
  /-- All stay as they are, as on the standard input of a POSIX system. -/
  | kept
  /-- All become line feeds, as on the standard input of Windows and on other text streams. -/
  | unified
  deriving DecidableEq

/-- The text as it is read. -/
def LineMode.read : LineMode → List Char → List Char
  | kept, s => s
  | unified, s => unifyLineBreaks s

/-- The text without a line feed at its end, of which at most one is left out. -/
def dropFinalBreak : List Char → List Char
  | [] => []
  | ['\n'] => []
  | c :: s => c :: dropFinalBreak s

end BracketSpacing.Text
