import BracketSpacing.Calendar.Date
import BracketSpacing.Text.Numeral
import BracketSpacing.Text.Utf8

/-!
# Errors of documents

`Yaml.Error`: why a text is no document, or why no value can be built from it.
-/

namespace BracketSpacing.Yaml

/-- Why a text is no document, or its value cannot be built. -/
inductive Error where
  /-- The text breaks a rule of the language. -/
  | malformed
  /-- The text ends where it has to go on. -/
  | unfinished
  /-- The bytes are no text. -/
  | undecodable (e : Text.Utf8.DecodeError)
  /-- An escaped code point lies beyond the last one. -/
  | codePoint
  /-- An escaped code point does not even fit into 31 bits. -/
  | hugeCodePoint
  /-- A text is no numeral. -/
  | numeral (e : Text.NumeralError)
  /-- A text that is tagged as a number is empty, but for a sign. -/
  | emptyNumber
  /-- The sixtieths of a decimal number stand before more places than a floating point number has. -/
  | tooManyPlaces
  /-- A text that is tagged as a truth value is none of the words for one. -/
  | unknownWord (word : List Text.CodePoint)
  /-- A text that is tagged as a time is none. -/
  | noTimestamp
  /-- A mapping is tagged as a time. -/
  | timestampOfMapping
  /-- The numbers of a time are out of range. -/
  | calendar (e : CalendarError)
  /-- A mapping that stands for a text leads back to itself. -/
  | endless
  deriving DecidableEq

/-- What is said about the error. -/
def Error.message : Error → String
  | malformed | unfinished => "<YAMLError>"
  | undecodable e => e.message
  | codePoint => "chr() arg not in range(0x110000)"
  | hugeCodePoint => "Python int too large to convert to C int"
  | numeral e => e.message
  | emptyNumber => "string index out of range"
  | tooManyPlaces => "int too large to convert to float"
  | unknownWord word => String.ofList (Text.quoted word)
  | noTimestamp => "'NoneType' object has no attribute 'groupdict'"
  | timestampOfMapping => "expected string or bytes-like object, got 'list'"
  | calendar e => e.message
  | endless => "maximum recursion depth exceeded"

/-- Whether a command reports the error as one of the document. With any other it breaks down. -/
def Error.isReported : Error → Bool
  | malformed | unfinished | undecodable _ | codePoint | numeral _ | calendar _ => true
  | _ => false

end BracketSpacing.Yaml
