/-!
# Shortest decimals

* `Binary`: a finite number m · 2^q as 64-bit floating point holds it.
* `Digits`: a decimal d · 10^k.
* `Binary.readsBack`: whether a decimal lies among the reals that round to a number.
* `Binary.shortest`: the decimal of fewest digits that reads back, and of those the nearest; a tie goes to even digits.
-/

namespace BracketSpacing.Decimal

/-- A finite number m · 2^q that is not negative. The gap to the number below may be half the gap to the one above. -/
structure Binary where
  m : Nat
  q : Int
  narrowBelow : Bool

/-- The magnitude of a number that is finite. -/
def Binary.ofFloat (f : Float) : Binary :=
  let bits := f.toBits.toNat
  let exponent : Nat := bits / Nat.pow 2 52 % Nat.pow 2 11
  let fraction : Nat := bits % Nat.pow 2 52
  if exponent = 0 then ⟨fraction, -1074, false⟩
  else ⟨Nat.pow 2 52 + fraction, (exponent : Int) - 1075, fraction == 0 && exponent > 1⟩

/-- The decimal d · 10^k. -/
structure Digits where
  d : Nat
  k : Int

/-- The order of a · 10^i and n · 2^j. -/
def compareScaled (a : Nat) (i : Int) (n : Nat) (j : Int) : Ordering :=
  compare (a * Nat.pow 10 i.toNat * Nat.pow 2 (-j).toNat) (n * Nat.pow 2 j.toNat * Nat.pow 10 (-i).toNat)

namespace Binary

/-- Whether the decimal lies between the midpoints to the neighbours. The midpoints themselves round to the number whose
significand is even. -/
def readsBack (x : Binary) (d : Digits) : Bool :=
  let low := compareScaled d.d d.k (if x.narrowBelow then 4 * x.m - 1 else 4 * x.m - 2) (x.q - 2)
  let high := compareScaled d.d d.k (4 * x.m + 2) (x.q - 2)
  let even := x.m % 2 == 0
  (low == .gt || (even && low == .eq)) && (high == .lt || (even && high == .eq))

/-- The least k with x < 10^k. -/
def scale (x : Binary) : Int :=
  (((List.range 640).map fun i : Nat => (i : Int) - 325).find? fun k => compareScaled 1 k x.m x.q == .gt).getD 310

/-- The number of whole steps of size 10^k below x. -/
def stepsBelow (x : Binary) (k : Int) : Nat :=
  (x.m * Nat.pow 2 x.q.toNat * Nat.pow 10 (-k).toNat) / (Nat.pow 2 (-x.q).toNat * Nat.pow 10 k.toNat)

/-- The point of the grid with steps of size 10^k that reads back, if one of the two around x does: of both the nearer,
and the even one if x lies in the middle. -/
def onGrid? (x : Binary) (k : Int) : Option Digits :=
  let below : Digits := ⟨x.stepsBelow k, k⟩
  let above : Digits := ⟨x.stepsBelow k + 1, k⟩
  match x.readsBack below, x.readsBack above with
  | false, false => none
  | true, false => some below
  | false, true => some above
  | true, true =>
    match compareScaled (below.d + above.d) k x.m (x.q + 1) with
    | .gt => some below
    | .lt => some above
    | .eq => some (if below.d % 2 = 0 then below else above)

end Binary

/-- The same decimal without zeros at its end, of which at most `fuel` are taken off. -/
def Digits.stripZeros : (fuel : Nat) → Digits → Digits
  | 0, d => d
  | fuel + 1, d => if d.d ≠ 0 ∧ d.d % 10 = 0 then stripZeros fuel ⟨d.d / 10, d.k + 1⟩ else d

/-- The shortest decimal that reads back. Seventeen digits are always enough; were they not, all digits of x are
given. -/
def Binary.shortest (x : Binary) : Digits :=
  if x.m = 0 then ⟨0, 0⟩
  else
    let found := (List.range 17).findSome? fun n : Nat => x.onGrid? (x.scale - (n + 1))
    (found.getD ⟨x.m * Nat.pow 2 x.q.toNat * Nat.pow 5 (-x.q).toNat, if x.q < 0 then x.q else 0⟩).stripZeros 20

end BracketSpacing.Decimal
