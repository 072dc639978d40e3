import BracketSpacing.Settings.Value

/-!
# The order of numbers in a set

* `residue`: a number as a remainder by a prime, such that equal numbers have equal remainders.
* `placed`: numbers in the slots of a table. A number goes to the slot that the lowest bits of its remainder name, or to
  the next free one of some slots after it; if all are taken the higher bits lead to other slots.
* `memberOrder`: the order of the members of a set. Numbers stand in the order of the table, other members as they came.
-/

namespace BracketSpacing

/-! ## Remainders -/

/-- The prime that remainders are taken by. -/
def residuePrime : Nat :=
  Nat.pow 2 61 - 1

/-- A remainder with the sign of the number. No remainder is minus one. -/
def signedResidue (negative : Bool) (r : Nat) : Int :=
  if !negative then r else if r = 1 then -2 else -(r : Int)

/-- The remainder of a whole number. -/
def wholeResidue (i : Int) : Int :=
  signedResidue (i < 0) (i.natAbs % residuePrime)

/-- The remainder of m · 2^q. A power of two of 61 times its exponent is one. -/
def binaryResidue (b : Decimal.Binary) : Nat :=
  b.m * Nat.pow 2 (b.q.emod 61).toNat % residuePrime

/-- The remainder of a floating point number that is a number. -/
def floatResidue (f : Float) : Int :=
  if f.isInf then (if f < 0 then -314159 else 314159)
  else signedResidue (f < 0) (binaryResidue (.ofFloat f))

/-! ## Tables -/

/-- The number of slots for so many members: a power of two, and more than twice as many from five members on. -/
def slotCount (members : Nat) : Nat :=
  if members < 5 then 8 else Nat.pow 2 (Nat.log2 (2 * members) + 1)

/-- The first free slot for a member from a slot on. After the slots near it, the rest of the remainder and the slot
lead to the next one. There is a free slot, so that some steps, of which there are at most `fuel`, lead to it. -/
def freeSlot (taken : Nat → Bool) (slots : Nat) : (fuel : Nat) → (rest slot : Nat) → Nat
  | 0, _, slot => slot
  | fuel + 1, rest, slot =>
    let near := if slot + 9 < slots then 10 else 1
    match ((List.range near).map (slot + ·)).find? fun s => !taken s with
    | some s => s
    | none =>
      let rest := rest / 32
      freeSlot taken slots fuel rest ((slot * 5 + 1 + rest) % slots)

/-- The slots that members get one after the other, each with its member. -/
def placed {α : Type} (slots : Nat) (done : List (Nat × α)) : List (Int × α) → List (Nat × α)
  | [] => done
  | (r, a) :: members =>
    let bits := (r.emod (Nat.pow 2 64)).toNat
    let slot := freeSlot (fun s => done.any (·.1 == s)) slots (16 + slots) bits (bits % slots)
    placed slots (done ++ [(slot, a)]) members

/-- The members in the order of their slots. Each comes with its remainder. -/
def tableOrder {α : Type} (members : List (Int × α)) : List α :=
  ((placed (slotCount members.length) [] members).mergeSort fun a b => a.1 ≤ b.1).map (·.2)

/-! ## Sets -/

/-- The remainder of a value that is a number. True counts as one and false as zero. -/
def Value.residue? : Value → Option Int
  | .bool b => some (if b then 1 else 0)
  | .int i => some (wholeResidue i)
  | .float f => some (floatResidue f)
  | _ => none

/-- The members of a set in order, of which no two are the same. -/
def memberOrder (members : List Value) : List Value :=
  match members.mapM fun v => v.residue?.map (·, v) with
  | some numbers => tableOrder numbers
  | none => members

end BracketSpacing
