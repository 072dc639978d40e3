import BracketSpacing.Segment.Basic
import BracketSpacing.Segment.Literal

/-!
# Cutting a text into segments

* `scan`: the segments of a text from a given mode on. In markup mode all is code up to the next open tag `<?`; in
  script mode literals are cut out and a closing tag `?>` goes back to markup.
* `isTemplate`: whether a text starts in markup mode.
* `Strategy`: the two ways to cut a text, `raw` (all is code) and `php` (literals are cut out).

`Strategy.joined_segments` says that the segments make up the text.
-/

namespace BracketSpacing

/-- Literals are read in script mode only. -/
inductive Mode where
  | markup
  | script
  deriving DecidableEq

open Segment in
/-- The segments of a text that starts in the given mode. -/
def scan : Mode → List Char → List Segment
  | _, [] => []
  | .markup, '<' :: '?' :: s => consCode '<' (consCode '?' (scan .script s))
  | .markup, c :: s => consCode c (scan .markup s)
  | .script, '?' :: '>' :: s => consCode '?' (consCode '>' (scan .markup s))
  | .script, c :: s =>
    match _h : literal? (c :: s) with
    | some r => literal r.literal :: scan .script r.rest
    | none => consCode c (scan .script s)
termination_by _ s => s.length
decreasing_by
  all_goals first
    | exact literal?_rest_lt (by assumption)
    | (simp only [List.length_cons]; omega)

theorem joined_scan (mode : Mode) (s : List Char) : Segment.joined (scan mode s) = s := by
  fun_induction scan mode s with
  | case1 => rfl
  | case2 s ih => simp [ih]
  | case3 c s _ ih => simp [ih]
  | case4 s ih => simp [ih]
  | case5 c s _ r h ih =>
    rw [Segment.joined_cons, ih]
    exact literal?_whole h
  | case6 c s _ h ih => simp [ih]

/-! ## Where a text starts -/

/-- What may stand before the first tag of a template. -/
def isTemplateMargin (c : Char) : Bool :=
  c == '\uFEFF' || c == ' ' || c == '\t' || c == '\r' || c == '\n'

/-- Whether the text holds an open tag. -/
def hasOpenTag : List Char → Bool
  | [] => false
  | '<' :: '?' :: _ => true
  | _ :: s => hasOpenTag s

/-- A template starts, after its margin, with an open tag, or with other markup that an open tag follows somewhere. -/
def isTemplate (s : List Char) : Bool :=
  match s.dropWhile isTemplateMargin with
  | '<' :: '?' :: _ => true
  | '<' :: '<' :: '<' :: _ => false
  | '<' :: s => hasOpenTag s
  | _ => false

/-- Templates start in markup mode, all other texts in script mode. -/
def startMode (s : List Char) : Mode :=
  if isTemplate s then .markup else .script

/-! ## Strategies -/

/-- How a text is cut: not at all, or at the literals of the language. -/
inductive Strategy where
  | php
  | raw
  deriving DecidableEq

namespace Strategy

/-- The name that settings know the strategy by. -/
def name : Strategy → String
  | php => "php"
  | raw => "raw"

/-- All strategies in the order of their names. -/
def all : List Strategy := [php, raw]

/-- The strategy of a name that is written exactly so. -/
def ofName? (s : String) : Option Strategy :=
  all.find? (·.name == s)

/-- The segments of a text. -/
def segments : Strategy → List Char → List Segment
  | raw, [] => []
  | raw, s => [Segment.code s]
  | php, s => scan (startMode s) s

/-- The segments make up the text. -/
theorem joined_segments (strategy : Strategy) (s : List Char) : Segment.joined (strategy.segments s) = s := by
  cases strategy with
  | php => exact joined_scan _ _
  | raw => cases s <;> simp [segments]

end Strategy

end BracketSpacing
