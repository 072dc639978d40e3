import BracketSpacing.Calendar.Date

/-!
# Moments

* `Clock`: a time of day to the microsecond. `Clock.make` refuses numbers that are none.
* `Moment`: a date and a time of day, which may be those of a place whose offset from universal time is known.
* `Moment.same`: whether two moments are the same. Two with offsets are if they are at the same universal time.
* `Moment.text` and `Moment.shown`: a moment as text, and as messages show it.
-/

namespace BracketSpacing

/-! ## Times of day -/

/-- A time of day. -/
structure Clock where
  hour : Nat
  minute : Nat
  second : Nat
  micros : Nat
  deriving DecidableEq

/-- The time of an hour, a minute, a second and microseconds. -/
def Clock.make (hour minute second micros : Nat) : Except CalendarError Clock :=
  if 23 < hour then .error .hour
  else if 59 < minute then .error .minute
  else if 59 < second then .error .second
  else .ok ⟨hour, minute, second, micros⟩

/-- The number of microseconds since midnight. -/
def Clock.sinceMidnight (c : Clock) : Nat :=
  ((c.hour * 60 + c.minute) * 60 + c.second) * 1000000 + c.micros

/-! ## Offsets -/

/-- An offset from universal time in minutes, positive to the east, which is shorter than a day. -/
structure Offset where
  minutes : Int
  minutes_range : -1440 < minutes ∧ minutes < 1440
  deriving DecidableEq

namespace Offset

/-- The offset of so many minutes. -/
def make (minutes : Int) : Except CalendarError Offset :=
  if h : -1440 < minutes ∧ minutes < 1440 then .ok ⟨minutes, h⟩ else .error (.offset minutes)

/-- The offset of universal time itself. -/
def zero : Offset :=
  ⟨0, by omega⟩

/-- The offset as text. -/
def text (o : Offset) : String :=
  (if o.minutes < 0 then "-" else "+") ++ Decimal.padded 2 (o.minutes.natAbs / 60) ++ ":" ++
    Decimal.padded 2 (o.minutes.natAbs % 60)

/-- The offset as messages show it. -/
def shown (o : Offset) : String :=
  if o.minutes = 0 then "datetime.timezone.utc" else "datetime.timezone(" ++ shownSpan (o.minutes * 60) ++ ")"

end Offset

/-! ## Moments -/

/-- A date and a time of day. -/
structure Moment where
  date : Date
  clock : Clock
  offset : Option Offset
  deriving DecidableEq

namespace Moment

/-- The microseconds up to a moment as its clock counts them. -/
def micros (m : Moment) : Nat :=
  m.date.dayNumber * 86400000000 + m.clock.sinceMidnight

/-- Whether two moments are the same. One with an offset is never the same as one without. -/
def same (a b : Moment) : Bool :=
  match a.offset, b.offset with
  | none, none => a.micros == b.micros
  | some o, some p => (a.micros : Int) - o.minutes * 60000000 == b.micros - p.minutes * 60000000
  | _, _ => false

/-- The moment as text. -/
def text (m : Moment) : String :=
  let c := m.clock
  let time := ":".intercalate ([c.hour, c.minute, c.second].map (Decimal.padded 2))
  let fraction := if c.micros = 0 then "" else "." ++ Decimal.padded 6 c.micros
  m.date.text ++ " " ++ time ++ fraction ++ (m.offset.map Offset.text).getD ""

/-- The number of levels below that of a moment which showing it takes: one for an offset, and one for a span in it. -/
def shownLevels (m : Moment) : Nat :=
  match m.offset with
  | none => 0
  | some o => if o.minutes = 0 then 1 else 2

/-- The moment as messages show it, without seconds and microseconds if there are none. -/
def shown (m : Moment) : String :=
  let c := m.clock
  let seconds := if c.second = 0 ∧ c.micros = 0 then [] else [c.second]
  let micros := if c.micros = 0 then [] else [c.micros]
  let numbers := [m.date.year, m.date.month, m.date.day, c.hour, c.minute] ++ seconds ++ micros
  let offset := match m.offset with
    | some o => ["tzinfo=" ++ o.shown]
    | none => []
  "datetime.datetime(" ++ ", ".intercalate (numbers.map toString ++ offset) ++ ")"

end Moment

end BracketSpacing
