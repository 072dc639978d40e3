import BracketSpacing.Calendar.Moment
import BracketSpacing.Yaml.Error

/-!
# Times as documents write them

* `Timestamp`: the numbers of a date, and of a time of day if there is one.
* `Timestamp.ofText?`: the numbers that a text writes.
* `isTimestamp`: whether a plain text is taken for a time.
* `Timestamp.value`: the date or the moment that the numbers stand for.
-/

namespace BracketSpacing.Yaml

/-- The numbers of a time of day. -/
structure WrittenClock where
  hour : Nat
  minute : Nat
  second : Nat
  /-- The digits after the point. -/
  fraction : List Char
  /-- The minutes from universal time, if there is an offset. -/
  offset : Option Int

/-- The numbers of a date, and of a time of day if there is one. -/
structure Timestamp where
  year : Nat
  month : Nat
  day : Nat
  clock : Option WrittenClock

/-! ## Reading -/

/-- The number of decimal digits. -/
def numberOf (digits : List Char) : Nat :=
  Nat.ofDigitChars 10 digits 0

/-- As many digits as there are up to a greatest number, which must be some least number at least, and what follows. -/
def digits? (least most : Nat) (s : List Char) : Option (Nat × List Char) :=
  let digits := (s.take most).takeWhile Char.isDigit
  if digits.length < least then none else some (numberOf digits, s.drop digits.length)

/-- What follows the given character. -/
def after? (c : Char) : List Char → Option (List Char)
  | d :: s => if d = c then some s else none
  | [] => none

/-- Whether a character is a blank or a tab. -/
def isBlankOrTab (c : Char) : Bool :=
  c == ' ' || c == '\t'

/-- What follows the mark between date and time: a letter, or blanks. -/
def afterTimeMark? : List Char → Option (List Char)
  | [] => none
  | c :: s =>
    if c = 'T' ∨ c = 't' then some s
    else if isBlankOrTab c then some (s.dropWhile isBlankOrTab)
    else none

/-- The minutes of an offset, which the text ends with: a sign, hours, and minutes if they are given. -/
def offset? (s : List Char) : Option Int :=
  match s with
  | ['Z'] => some 0
  | sign :: s => do
    let (hours, s) ← if sign = '+' ∨ sign = '-' then digits? 1 2 s else none
    let (minutes, s) ← if s.isEmpty then some (0, s) else (after? ':' s).bind (digits? 2 2)
    let total : Int := hours * 60 + minutes
    if s.isEmpty then some (if sign = '-' then -total else total) else none
  | [] => none

/-- The time of day that a text writes. -/
def WrittenClock.ofText? (s : List Char) : Option WrittenClock := do
  let (hour, s) ← digits? 1 2 s
  let (minute, s) ← (after? ':' s).bind (digits? 2 2)
  let (second, s) ← (after? ':' s).bind (digits? 2 2)
  let (fraction, s) := match s with
    | '.' :: s => (s.takeWhile Char.isDigit, s.dropWhile Char.isDigit)
    | s => ([], s)
  if s.isEmpty then return ⟨hour, minute, second, fraction, none⟩
  let minutes ← offset? (s.dropWhile isBlankOrTab)
  return ⟨hour, minute, second, fraction, some minutes⟩

/-- The date that a text writes, and the time of day if it writes one. -/
def Timestamp.ofText? (s : List Char) : Option Timestamp := do
  let (year, s) ← digits? 4 4 s
  let (month, s) ← (after? '-' s).bind (digits? 1 2)
  let (day, s) ← (after? '-' s).bind (digits? 1 2)
  if s.isEmpty then return ⟨year, month, day, none⟩
  let clock ← (afterTimeMark? s).bind WrittenClock.ofText?
  return ⟨year, month, day, some clock⟩

/-- Whether a plain text is taken for a time. Without a time of day, month and day must have two digits each. -/
def isTimestamp (s : List Char) : Bool :=
  match Timestamp.ofText? s with
  | some t => t.clock.isSome || s.length == 10
  | none => false

/-! ## Meaning -/

/-- The microseconds of a fraction: its first six digits, filled up with zeros. -/
def microsOf (fraction : List Char) : Nat :=
  let digits := fraction.take 6
  numberOf digits * Nat.pow 10 (6 - digits.length)

/-- The moment of a date and a time of day. The offset is looked at first. -/
def Timestamp.moment (t : Timestamp) (c : WrittenClock) : Except CalendarError Moment := do
  let offset ← match c.offset with
    | some minutes => (Offset.make minutes).map some
    | none => pure none
  let date ← Date.make t.year t.month t.day
  let clock ← Clock.make c.hour c.minute c.second (microsOf c.fraction)
  return ⟨date, clock, offset⟩

/-- The date or the moment. -/
def Timestamp.value (t : Timestamp) : Except CalendarError (Date ⊕ Moment) :=
  match t.clock with
  | none => (Date.make t.year t.month t.day).map .inl
  | some c => (t.moment c).map .inr

end BracketSpacing.Yaml
