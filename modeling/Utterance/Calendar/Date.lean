import Utterance.Calendar.Weekday

set_option autoImplicit false

/-!
# Dates

Dates of the Gregorian calendar, extended backwards over the year 0 and below, between a first and
a last year. Counting days is done on the *day number*: the number of days since 1 January of the
year 1, which was a Monday.

## Main definitions

* `Utterance.Calendar.Date`: a day between 1 January of `firstYear` and 31 December of `lastYear`.
* `Utterance.Calendar.Date.dayNumber`, `Utterance.Calendar.Date.ofDayNumber?`: the way to the day
  number and back.
* `Utterance.Calendar.Date.next?`: the following day, said on year, month and day alone.
* `Utterance.Calendar.Date.addDays?`: the day a number of days later.

## Main results

* `Utterance.Calendar.daysBefore_add_one`: a year has 365 days, and 366 when it is a leap year.
* `Utterance.Calendar.daysBefore_yearOf_le`, `Utterance.Calendar.lt_daysBefore_yearOf`: every day
  number lies in the year that `yearOf` finds.
-/

namespace Utterance.Calendar

/-! ## Years and months -/

/-- The first year of the calendar. -/
def firstYear : Int := -262143

/-- The last year of the calendar. -/
def lastYear : Int := 262142

/-- A leap year is divisible by 4, and if by 100 then also by 400. -/
def isLeap (year : Int) : Bool :=
  year % 4 == 0 && (year % 100 != 0 || year % 400 == 0)

/-- The lengths of the months from January to December. -/
def monthLengths (leap : Bool) : List Nat :=
  [31, if leap then 29 else 28, 31, 30, 31, 30, 31, 31, 30, 31, 30, 31]

/-- The number of days in a month of a year. -/
def monthLength (year : Int) (month : Nat) : Nat :=
  (monthLengths (isLeap year)).getD (month - 1) 0

/-- The day number of 1 January. -/
def daysBefore (year : Int) : Int :=
  365 * (year - 1) + (year - 1) / 4 - (year - 1) / 100 + (year - 1) / 400

/-- A year has 366 days when it is a leap year and 365 when it is not. -/
theorem daysBefore_add_one (year : Int) :
    daysBefore (year + 1) = daysBefore year + if isLeap year then 366 else 365 := by
  simp only [daysBefore, isLeap, Bool.and_eq_true, Bool.or_eq_true, beq_iff_eq, bne_iff_ne]
  split <;> omega

/-- The year in which a day number lies. The quotient by the mean length of a year is at most one
year off. -/
def yearOf (n : Int) : Int :=
  let guess := 400 * n / 146097 + 1
  if n < daysBefore guess then guess - 1
  else if daysBefore (guess + 1) ≤ n then guess + 1
  else guess

/-- The year of a day has begun on this day. -/
theorem daysBefore_yearOf_le (n : Int) : daysBefore (yearOf n) ≤ n := by
  simp only [yearOf]
  split
  · simp only [daysBefore] at *; omega
  · split
    · assumption
    · omega

/-- The year after that of a day begins later. -/
theorem lt_daysBefore_yearOf (n : Int) : n < daysBefore (yearOf n + 1) := by
  simp only [yearOf]
  split
  · simpa using by assumption
  · split
    · simp only [daysBefore] at *; omega
    · omega

/-! ## Dates -/

/-- The year, month and day that make a date of the calendar. -/
def Date.Valid (year : Int) (month day : Nat) : Prop :=
  (firstYear ≤ year ∧ year ≤ lastYear) ∧ (1 ≤ month ∧ month ≤ 12) ∧
    1 ≤ day ∧ day ≤ monthLength year month

instance (year : Int) (month day : Nat) : Decidable (Date.Valid year month day) := by
  unfold Date.Valid; infer_instance

/-- A date of the calendar. -/
@[ext] structure Date where
  /-- The year; the year before 1 is 0. -/
  year : Int
  /-- The month, from 1 to 12. -/
  month : Nat
  /-- The day of the month, from 1. -/
  day : Nat
  /-- The three name a day between the first and the last year. -/
  valid : Date.Valid year month day
  deriving DecidableEq

namespace Date

/-- The date of a year, month and day, if there is one. -/
def of? (year : Int) (month day : Nat) : Option Date :=
  if h : Valid year month day then some ⟨year, month, day, h⟩ else none

/-- The numbers of a date make this date. -/
@[simp] theorem of?_self (d : Date) : of? d.year d.month d.day = some d := by
  simp [of?, d.valid]

/-- The number of days in the first `count` of months with the given lengths. -/
def daysInMonths : (lengths : List Nat) → (count : Nat) → Nat
  | len :: lengths, count + 1 => len + daysInMonths lengths count
  | _, _ => 0

/-- The number of days before a date in its year. -/
def daysInYear (d : Date) : Nat :=
  daysInMonths (monthLengths (isLeap d.year)) (d.month - 1) + (d.day - 1)

/-- The number of days from 1 January of the year 1. -/
def dayNumber (d : Date) : Int := daysBefore d.year + d.daysInYear

/-- Month and day of the month of the day with `n` days before it in the year, given the lengths
of the months. -/
def monthAndDay : (lengths : List Nat) → (n : Nat) → Nat × Nat
  | [], n => (1, n + 1)
  | len :: lengths, n =>
    if n < len then (1, n + 1)
    else (monthAndDay lengths (n - len)).map (· + 1) id

/-- The date with a given day number, if it is in the calendar. -/
def ofDayNumber? (n : Int) : Option Date :=
  let year := yearOf n
  let place := monthAndDay (monthLengths (isLeap year)) (n - daysBefore year).toNat
  of? year place.1 place.2

/-- The weekday of a date. -/
def weekday (d : Date) : Weekday := Weekday.ofIndex (d.dayNumber % 7).toNat

/-- The date `n` days after `d`, if it is in the calendar. -/
def addDays? (d : Date) (n : Nat) : Option Date := ofDayNumber? (d.dayNumber + n)

/-- The day after `d`: the next day of the month, else the first of the next month, else the first
of the next year. The last day of the calendar has none. -/
def next? (d : Date) : Option Date :=
  if d.day < monthLength d.year d.month then of? d.year d.month (d.day + 1)
  else if d.month < 12 then of? d.year (d.month + 1) 1
  else of? (d.year + 1) 1 1

end Date

end Utterance.Calendar
