import BracketSpacing.Calendar.Moment
import BracketSpacing.Text.Numeral

/-!
# Values of a settings document

* `Value`: what a settings document holds.
* `Document`: a value together with the parts that it names. A part may stand in several places, also within itself.
* `Document.shownAt`: a value as messages show it, with texts between quotes; a part within itself is cut short.
* `Document.plain`: a value as text; a text is itself.
* `Document.isVoid`: whether a document says nothing.

A whole number of too many digits cannot be shown, and neither can a value that lies too deep in others; `Room` says how
deep is too deep.
-/

namespace BracketSpacing

open Text (CodePoint pointsOf)

/-- A value of a settings document. The entries of a map are in the order in which their keys came up. -/
inductive Value where
  | null
  | bool (b : Bool)
  | int (i : Int)
  | float (f : Float)
  /-- No number at all. Two of them are the same only if they have the same origin. -/
  | nan (origin : Option Nat)
  | text (s : List CodePoint)
  | bytes (bytes : List UInt8)
  | date (d : Date)
  | moment (m : Moment)
  | list (items : List Value)
  | pair (first second : Value)
  | set (members : List Value)
  | map (entries : List (Value × Value))
  /-- The part of the document with this number. -/
  | part (n : Nat)
  deriving Inhabited

namespace Value

/-- The text of a string. -/
def ofString (s : String) : Value :=
  text (pointsOf s)

/-- The value of a key that is a text. -/
def get? (entries : List (Value × Value)) (key : String) : Option Value :=
  (entries.find? fun (k, _) => match k with
    | text s => s == pointsOf key
    | _ => false).map (·.2)

/-- Numbers between 0.0001 and 10^16 are written out; other exponents have at least two digits. -/
def layout : Decimal.Layout := ⟨-4, 16, 2⟩

/-! ## Showing -/

/-- The values directly in a value. A set is shown through the list of its members. -/
def children : Value → List Value
  | list items => items
  | pair a b => [a, b]
  | set [] => []
  | set members => [list members]
  | map entries => entries.flatMap fun (key, v) => [key, v]
  | _ => []

/-- What is shown of a collection within itself. -/
def ellipsis : Value → String
  | list _ => "[...]"
  | pair _ _ => "(...)"
  | set _ | map _ => "\x7b...\x7d"
  | _ => "..."

end Value

/-- Why a value cannot be shown. -/
inductive ShowError where
  /-- A whole number has too many digits. -/
  | tooManyDigits
  /-- Values lie too deep in one another. -/
  | tooDeep
  deriving DecidableEq

/-- What is said about the error. -/
def ShowError.message : ShowError → String
  | tooManyDigits => Text.tooManyDigitsMessage ""
  | tooDeep => "maximum recursion depth exceeded while getting the repr of an object"

namespace Value

/-- Keys with their values, from both one after the other. -/
def shownEntries : List String → List String
  | key :: v :: rest => (key ++ ": " ++ v) :: shownEntries rest
  | _ => []

/-- What a value is shown as around the values directly in it, with so many levels left for them. -/
def frame (levels : Nat) : Value → Except ShowError (List String → String)
  | null => .ok fun _ => "None"
  | bool b => .ok fun _ => if b then "True" else "False"
  | int i =>
    match Text.showWhole? i with
    | some s => .ok fun _ => s
    | none => .error .tooManyDigits
  | float f => .ok fun _ => layout.render f
  | nan _ => .ok fun _ => "nan"
  | text s => .ok fun _ => String.ofList (Text.quoted s)
  | bytes bs => .ok fun _ => String.ofList (Text.quotedBytes bs)
  | date d => .ok fun _ => d.shown
  | moment m => if levels < m.shownLevels then .error .tooDeep else .ok fun _ => m.shown
  | list _ => .ok fun items => "[" ++ ", ".intercalate items ++ "]"
  | pair _ _ => .ok fun items => "(" ++ ", ".intercalate items ++ ")"
  | set [] => .ok fun _ => "set()"
  | set _ => .ok fun members => "\x7b" ++ String.ofList (String.join members).toList.tail.dropLast ++ "\x7d"
  | map _ => .ok fun items => "\x7b" ++ ", ".intercalate (shownEntries items) ++ "\x7d"
  | part _ => .ok fun _ => "..."

end Value

/-- How many levels there are for showing a value that stands by itself, and for one that is an item of a list. -/
structure Room where
  single : Nat
  item : Nat

/-! ## Documents -/

/-- A value and the parts that it and they name. -/
structure Document where
  value : Value
  parts : Array Value := #[]

namespace Document

/-- The part with a number. -/
def partAt (d : Document) (n : Nat) : Value :=
  d.parts[n]?.getD .null

/-- The value itself where a part is named. -/
def resolve (d : Document) : Value → Value
  | .part n => d.partAt n
  | v => v

/-- The parts that the values in a value stand within, unless it is a part within itself. -/
def entered? (within : List Nat) : Value → Option (List Nat)
  | .part n => if within.contains n then none else some (n :: within)
  | _ => some within

/-- The value as messages show it within some parts, with so many levels left. -/
def shownAt (d : Document) : (levels : Nat) → (within : List Nat) → Value → Except ShowError String
  | 0, _, _ => .error .tooDeep
  | levels + 1, within, v =>
    match entered? within v with
    | none => .ok (d.resolve v).ellipsis
    | some within => do
      let frame ← (d.resolve v).frame levels
      return frame (← (d.resolve v).children.mapM (d.shownAt levels within))

/-- The value as text, where collections are as messages show them. -/
def plain (d : Document) (levels : Nat) : Value → Except ShowError (List CodePoint)
  | .text s => .ok s
  | .date t => .ok (pointsOf t.text)
  | .moment m => .ok (pointsOf m.text)
  | v => (d.shownAt levels [] v).map pointsOf

/-- Whether a document says nothing: its value is null, false, zero or empty. -/
def isVoid (d : Document) : Bool :=
  match d.resolve d.value with
  | .null => true
  | .bool b => !b
  | .int i => i == 0
  | .float f => f == 0
  | .text s => s.isEmpty
  | .bytes bs => bs.isEmpty
  | .list items => items.isEmpty
  | .set members => members.isEmpty
  | .map entries => entries.isEmpty
  | _ => false

end Document

end BracketSpacing
