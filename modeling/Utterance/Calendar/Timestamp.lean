import Utterance.Calendar.Date

set_option autoImplicit false

/-!
# Timestamps

A timestamp is a date and a time of day, exact to the nanosecond and without a time zone. A leap
second is the second 59 going on: its nanoseconds run from one thousand million upwards.

## Main definitions

* `Utterance.Calendar.TimeOfDay`: hour, minute, second and nanosecond.
* `Utterance.Calendar.TimeOfDay.ofNanoseconds`: the time of day reached some nanoseconds after
  midnight.
* `Utterance.Calendar.Timestamp`: a date with a time of day.

## Main results

* `Utterance.Calendar.TimeOfDay.nanoseconds_ofNanoseconds`: the nanoseconds are found again.
-/

namespace Utterance.Calendar

/-- The nanoseconds in a second. -/
def nanosPerSecond : Nat := 1000000000

/-- The nanoseconds in a day of 86400 seconds. -/
def nanosPerDay : Nat := 86400 * nanosPerSecond

/-- The numbers that make a time of day. A leap second comes after second 59 only: times are read from
texts, where it is second 60. -/
def TimeOfDay.Valid (hour minute second nanosecond : Nat) : Prop :=
  hour < 24 ∧ minute < 60 ∧ second < 60 ∧ nanosecond < 2 * nanosPerSecond ∧
    (nanosPerSecond ≤ nanosecond → second = 59)

instance (hour minute second nanosecond : Nat) :
    Decidable (TimeOfDay.Valid hour minute second nanosecond) := by
  unfold TimeOfDay.Valid; infer_instance

/-- A time of day. A leap second is admitted after second 59 of any minute and after no other second,
although a nanosecond above `nanosPerSecond` could be set beside every second: no text names such a
time. -/
@[ext] structure TimeOfDay where
  /-- The hour, below 24. -/
  hour : Nat
  /-- The minute, below 60. -/
  minute : Nat
  /-- The second, below 60. -/
  second : Nat
  /-- The nanosecond: from `nanosPerSecond` on in a leap second. -/
  nanosecond : Nat
  /-- The numbers are within their bounds. -/
  valid : TimeOfDay.Valid hour minute second nanosecond
  deriving DecidableEq

namespace TimeOfDay

/-- The time of day made of four numbers, if they are within their bounds. -/
def of? (hour minute second nanosecond : Nat) : Option TimeOfDay :=
  if h : Valid hour minute second nanosecond then some ⟨hour, minute, second, nanosecond, h⟩
  else none

/-- The numbers of a time of day make this time. -/
@[simp] theorem of?_self (t : TimeOfDay) :
    of? t.hour t.minute t.second t.nanosecond = some t := by
  simp [of?, t.valid]

/-- Whether the time lies in a leap second. -/
def isLeapSecond (t : TimeOfDay) : Bool := nanosPerSecond ≤ t.nanosecond

/-- The nanoseconds from midnight to the time, a leap second counted as a second more. -/
def nanoseconds (t : TimeOfDay) : Nat :=
  ((t.hour * 60 + t.minute) * 60 + t.second) * nanosPerSecond + t.nanosecond

/-- The time of day `n` nanoseconds after midnight, never in a leap second. -/
def ofNanoseconds (n : Nat) (h : n < nanosPerDay) : TimeOfDay where
  hour := n / nanosPerSecond / 60 / 60
  minute := n / nanosPerSecond / 60 % 60
  second := n / nanosPerSecond % 60
  nanosecond := n % nanosPerSecond
  valid := by
    simp only [nanosPerDay, nanosPerSecond, Valid] at *
    omega

/-- No time counted from midnight is in a leap second. -/
@[simp] theorem isLeapSecond_ofNanoseconds (n : Nat) (h : n < nanosPerDay) :
    (ofNanoseconds n h).isLeapSecond = false := by
  have := Nat.mod_lt n (show 0 < nanosPerSecond by decide)
  exact decide_eq_false (Nat.not_le_of_lt this)

/-- **The nanoseconds since midnight** are found again from the time they make. -/
@[simp] theorem nanoseconds_ofNanoseconds (n : Nat) (h : n < nanosPerDay) :
    (ofNanoseconds n h).nanoseconds = n := by
  simp only [nanoseconds, ofNanoseconds, nanosPerSecond]
  omega

end TimeOfDay

/-- A point in time: a date and a time of day. -/
@[ext] structure Timestamp where
  /-- The date. -/
  date : Date
  /-- The time of day. -/
  time : TimeOfDay
  deriving DecidableEq

end Utterance.Calendar
