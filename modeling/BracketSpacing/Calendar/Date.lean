import BracketSpacing.Decimal.Layout

/-!
# Dates

* `Date`: a day of the calendar in the years 1 to 9999. `Date.make` refuses numbers that are no date.
* `Date.dayNumber`: the number of a day, counted from the first day of the year 1.
* `Date.text` and `Date.shown`: a date as text, and as messages show it.
-/

namespace BracketSpacing

/-! ## Errors -/

/-- Why numbers are no date and no time of day. -/
inductive CalendarError where
  | year (year : Nat)
  | month
  | day
  | hour
  | minute
  | second
  /-- An offset from universal time, in minutes, is a day or longer. -/
  | offset (minutes : Int)
  deriving DecidableEq

/-- A span of whole seconds as messages show it: days, which may be negative, and seconds of a day. -/
def shownSpan (seconds : Int) : String :=
  let days := seconds.fdiv 86400
  let rest := seconds.fmod 86400
  let fields := (if days = 0 then [] else ["days=" ++ toString days]) ++
    (if rest = 0 then [] else ["seconds=" ++ toString rest])
  "datetime.timedelta(" ++ (if fields.isEmpty then "0" else ", ".intercalate fields) ++ ")"

/-- What is said about the error. -/
def CalendarError.message : CalendarError → String
  | year y => "year " ++ toString y ++ " is out of range"
  | month => "month must be in 1..12"
  | day => "day is out of range for month"
  | hour => "hour must be in 0..23"
  | minute => "minute must be in 0..59"
  | second => "second must be in 0..59"
  | offset minutes =>
    "offset must be a timedelta strictly between -timedelta(hours=24) and timedelta(hours=24), not " ++
      shownSpan (minutes * 60) ++ "."

/-! ## Days -/

/-- Whether a year has 366 days: every fourth year but for whole centuries, of which only every fourth has. -/
def isLeapYear (year : Nat) : Bool :=
  year % 4 == 0 && (year % 100 != 0 || year % 400 == 0)

/-- The number of days of a month. -/
def daysInMonth (year month : Nat) : Nat :=
  if month = 2 then (if isLeapYear year then 29 else 28)
  else if month = 4 ∨ month = 6 ∨ month = 9 ∨ month = 11 then 30
  else 31

/-- A day of the calendar. -/
structure Date where
  year : Nat
  month : Nat
  day : Nat
  year_range : 1 ≤ year ∧ year ≤ 9999
  month_range : 1 ≤ month ∧ month ≤ 12
  day_range : 1 ≤ day ∧ day ≤ daysInMonth year month
  deriving DecidableEq

namespace Date

/-- The date of a year, a month and a day. Of several numbers that are out of range the greatest unit is reported. -/
def make (year month day : Nat) : Except CalendarError Date :=
  if hy : 1 ≤ year ∧ year ≤ 9999 then
    if hm : 1 ≤ month ∧ month ≤ 12 then
      if hd : 1 ≤ day ∧ day ≤ daysInMonth year month then .ok ⟨year, month, day, hy, hm, hd⟩
      else .error .day
    else .error .month
  else .error (.year year)

/-- The number of days before a date in its year. -/
def daysBefore (d : Date) : Nat :=
  (List.range (d.month - 1)).foldl (fun days m => days + daysInMonth d.year (m + 1)) (d.day - 1)

/-- The number of the day. -/
def dayNumber (d : Date) : Nat :=
  let years := d.year - 1
  years * 365 + years / 4 - years / 100 + years / 400 + d.daysBefore

/-- The date as text. -/
def text (d : Date) : String :=
  "-".intercalate [Decimal.padded 4 d.year, Decimal.padded 2 d.month, Decimal.padded 2 d.day]

/-- The date as messages show it. -/
def shown (d : Date) : String :=
  "datetime.date(" ++ ", ".intercalate ([d.year, d.month, d.day].map toString) ++ ")"

end Date

end BracketSpacing
