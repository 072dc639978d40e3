/-!
# Repeating a step until nothing changes

`settle step limit text` applies `step` until a pass leaves the text as it is, at most `limit` times.
-/

namespace BracketSpacing

/-- The text after the last pass, the number of passes, and whether the last pass changed nothing. -/
structure Settled where
  text : List Char
  passes : Nat
  converged : Bool

/-- At most `limit` more passes, after `used` that were made before. -/
def settleFrom (step : List Char → List Char) (used : Nat) : (limit : Nat) → List Char → Settled
  | 0, text => ⟨text, used, false⟩
  | limit + 1, text =>
    if step text = text then ⟨text, used + 1, true⟩ else settleFrom step (used + 1) limit (step text)

/-- Passes over a text until one changes nothing or the limit is reached. -/
def settle (step : List Char → List Char) (limit : Nat) (text : List Char) : Settled :=
  settleFrom step 0 limit text

end BracketSpacing
