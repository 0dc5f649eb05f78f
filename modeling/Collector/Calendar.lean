/-!
# The calendar

The moments that cursors of `harvest-source` name: dates of the proleptic Gregorian
calendar with times of day in whole seconds.  `Moment.next` carries from second to year
field by field; `Moment.instant` counts the seconds since the first moment of year zero
and says what a moment means.
-/

namespace Collector

/-- A date and time of day. -/
structure Moment where
  /-- The year; year zero comes before year one. -/
  year : Int
  /-- The month, from 1. -/
  month : Nat
  /-- The day of the month, from 1. -/
  day : Nat
  /-- The hour, from 0. -/
  hour : Nat
  /-- The minute, from 0. -/
  minute : Nat
  /-- The second, from 0. -/
  second : Nat
  deriving DecidableEq, Repr

namespace Moment

/-! ## Years and months -/

/-- Whether a year has a 29th of February. -/
def isLeap (year : Int) : Bool :=
  year % 4 = 0 && (year % 100 ≠ 0 || year % 400 = 0)

/-- The number of days of a month. -/
def daysInMonth (year : Int) (month : Nat) : Nat :=
  if month = 2 then (if isLeap year then 29 else 28)
  else if month = 4 ∨ month = 6 ∨ month = 9 ∨ month = 11 then 30
  else 31

/-- The first and the last year that a timestamp can name. -/
def firstYear : Int := -9999

/-- The last year that a timestamp can name. -/
def lastYear : Int := 9999

/-- A moment that exists, in a year that a timestamp can name. -/
def Valid (m : Moment) : Prop :=
  (firstYear ≤ m.year ∧ m.year ≤ lastYear) ∧ (1 ≤ m.month ∧ m.month ≤ 12) ∧
    (1 ≤ m.day ∧ m.day ≤ daysInMonth m.year m.month) ∧
    m.hour < 24 ∧ m.minute < 60 ∧ m.second < 60

instance (m : Moment) : Decidable m.Valid := by unfold Valid; infer_instance

/-! ## The next second -/

/-- The first moment of the following day; `none` after the last day. -/
def nextDay? (m : Moment) : Option Moment :=
  if m.day < daysInMonth m.year m.month then some ⟨m.year, m.month, m.day + 1, 0, 0, 0⟩
  else if m.month < 12 then some ⟨m.year, m.month + 1, 1, 0, 0, 0⟩
  else if m.year < lastYear then some ⟨m.year + 1, 1, 1, 0, 0, 0⟩
  else none

/-- The moment one second later; `none` after the last one. -/
def next? (m : Moment) : Option Moment :=
  if m.second < 59 then some { m with second := m.second + 1 }
  else if m.minute < 59 then some { m with minute := m.minute + 1, second := 0 }
  else if m.hour < 23 then some { m with hour := m.hour + 1, minute := 0, second := 0 }
  else m.nextDay?

/-! ## Instants -/

/-- The number of days of the years from year zero up to a year; negative for
years before it. -/
def daysBeforeYear (year : Int) : Int :=
  365 * year + (year + 3) / 4 - (year + 99) / 100 + (year + 399) / 400

/-- The number of days of a year before the first of a month. -/
def daysBeforeMonth (year : Int) (month : Nat) : Nat :=
  (List.range (month - 1)).foldl (fun days k => days + daysInMonth year (k + 1)) 0

/-- The number of days from the first day of year zero. -/
def dayNumber (m : Moment) : Int :=
  daysBeforeYear m.year + daysBeforeMonth m.year m.month + (m.day - 1)

/-- The number of seconds from the first moment of year zero. -/
def instant (m : Moment) : Int :=
  m.dayNumber * 86400 + m.hour * 3600 + m.minute * 60 + m.second

example : dayNumber ⟨1970, 1, 1, 0, 0, 0⟩ = 719528 := by decide
example : dayNumber ⟨0, 1, 1, 0, 0, 0⟩ = 0 ∧ dayNumber ⟨-1, 12, 31, 0, 0, 0⟩ = -1 := by decide

end Moment

end Collector
