import BracketSpacing.Bracket
import BracketSpacing.FixedPoint
import BracketSpacing.Placeholder
import BracketSpacing.Segment.Scan
import BracketSpacing.Settings.Basic
import BracketSpacing.Text.Lowercase
import BracketSpacing.Text.Quoted

/-!
# Normalizing a text

* `normalizeWith`: a text with the brackets in its code padded. Where there are literals, marks stand for them; a text
  that holds mark characters of its own is normalized one code segment at a time instead.
* `Normalizer`: where segments come from, the class guard and a limit of at least one pass.
* `Normalizer.ofSpacing`: the normalizer that settings describe, or why there is none.
* `Normalizer.normalize?`: the outcome for a text. There is none only if no rule for segments is known.
-/

namespace BracketSpacing

/-! ## Passes over the segments of a text -/

/-- Passes over a text that is code throughout. -/
def settleCode (guard : Bool) (limit : Nat) (text : List Char) : Settled :=
  settle (Bracket.padAll guard) limit text

/-- Passes over each code segment by itself. Literals stay as they are. -/
def settleSegments (guard : Bool) (limit : Nat) : List Segment → Settled
  | [] => ⟨[], 0, true⟩
  | ⟨.literal, text⟩ :: segments =>
    let others := settleSegments guard limit segments
    ⟨text ++ others.text, others.passes, others.converged⟩
  | ⟨.code, text⟩ :: segments =>
    let first := settleCode guard limit text
    let others := settleSegments guard limit segments
    ⟨first.text ++ others.text, max first.passes others.passes, first.converged && others.converged⟩

/-- Passes over the code with marks for literals, and the literals put back. -/
def settleMasked (guard : Bool) (limit : Nat) (segments : List Segment) : Settled :=
  let masked := settleCode guard limit (Placeholder.mask segments)
  ⟨Placeholder.restore (Placeholder.literals segments).toArray masked.text, masked.passes, masked.converged⟩

/-- Passes over a text that is cut into the given segments. -/
def settleText (guard : Bool) (limit : Nat) (segments : List Segment) (text : List Char) : Settled :=
  if segments.all Segment.isCode then settleCode guard limit text
  else if text.any Placeholder.isDelimiter then settleSegments guard limit segments
  else settleMasked guard limit segments

/-- The text after normalizing, whether it differs from the text before, the passes made, and whether the last of them
changed nothing. -/
structure Outcome where
  text : List Char
  changed : Bool
  passes : Nat
  converged : Bool
  deriving DecidableEq

/-- The outcome for a text that is cut by a strategy. -/
def normalizeWith (strategy : Strategy) (guard : Bool) (limit : Nat) (text : List Char) : Outcome :=
  let settled := settleText guard limit (strategy.segments text) text
  ⟨settled.text, decide (settled.text ≠ text), settled.passes, settled.converged⟩

/-! ## Normalizers -/

/-- Why settings describe no normalizer. -/
inductive SetupError where
  /-- The limit on passes is below one. -/
  | passLimit
  /-- No strategy has this name. -/
  | unknownStrategy (name : List Text.CodePoint)
  deriving DecidableEq

/-- What is said about the error. -/
def SetupError.message : SetupError → String
  | passLimit => "max_passes must be >= 1"
  | unknownStrategy name =>
    "Unknown segmenter: " ++ String.ofList (Text.quoted name) ++ " (expected one of " ++
      Text.quotedList (Strategy.all.map Strategy.name) ++ ")"

/-- The strategy of a name, whatever its case and the blanks around it. -/
def Strategy.named (name : List Text.CodePoint) : Except SetupError Strategy :=
  match (Text.string? (Text.lowercase (Text.strip (fun p => p.char?.any Text.isBlank) name))).bind ofName? with
  | some strategy => .ok strategy
  | none => .error (.unknownStrategy name)

/-- Where the segments of a text come from: a strategy, or no rule at all. -/
inductive Segmenter where
  | strategy (s : Strategy)
  | undefined
  deriving DecidableEq

/-- How texts are normalized. -/
structure Normalizer where
  segmenter : Segmenter := .strategy .php
  guard : Bool := true
  passLimit : Nat := 20
  passLimit_pos : 1 ≤ passLimit := by omega

namespace Normalizer

/-- The normalizer of the given settings. A segmenter that is given goes before the strategy of the settings, whose
name then does not matter. -/
def ofSpacing (settings : Spacing) (segmenter : Option Segmenter) : Except SetupError Normalizer :=
  if h : settings.maxPasses < 1 then .error .passLimit
  else
    have hpos : 1 ≤ settings.maxPasses.toNat := by omega
    match segmenter with
    | some segmenter => .ok ⟨segmenter, settings.classGuard, settings.maxPasses.toNat, hpos⟩
    | none => (Strategy.named settings.strategy).map fun strategy =>
      ⟨.strategy strategy, settings.classGuard, settings.maxPasses.toNat, hpos⟩

/-- The outcome for a text, if there is a rule to cut it. -/
def normalize? (n : Normalizer) (text : List Char) : Option Outcome :=
  match n.segmenter with
  | .strategy strategy => some (normalizeWith strategy n.guard n.passLimit text)
  | .undefined => none

end Normalizer

/-- The outcome for a text under the default settings. -/
def normalize (text : List Char) : Outcome :=
  normalizeWith .php true 20 text

end BracketSpacing
