import Utterance.Calendar.Timestamp

set_option autoImplicit false

/-!
# Relative times

A relative time is a day and a time of day that get their place in the calendar only from a
reference time. Hour and minute are added to midnight, so an hour past 23 reaches into the days
that follow.

## Main definitions

* `Utterance.Day`: today, tomorrow, or the next day that is some weekday.
* `Utterance.Day.daysAfter`: how many days lie between a reference day and the day meant.
* `Utterance.RelativeTime`: a day with an hour and a minute.
* `Utterance.RelativeTime.resolve?`: the timestamp meant at a reference time.
-/

namespace Utterance

open Calendar

/-- A day, seen from a reference day. -/
inductive Day where
  /-- The reference day itself. -/
  | today
  /-- The day after. -/
  | tomorrow
  /-- The first later day that is the weekday. -/
  | next (weekday : Weekday)
  deriving DecidableEq

/-- The days from a reference day with weekday `reference` to the day meant. -/
def Day.daysAfter (day : Day) (reference : Weekday) : Nat :=
  match day with
  | today => 0
  | tomorrow => 1
  | next weekday => reference.daysUntil weekday

/-- A day with an hour and a minute. -/
structure RelativeTime where
  /-- The day. -/
  day : Day
  /-- The hours after midnight. -/
  hour : Nat
  /-- The minutes after the hour. -/
  minute : Nat
  deriving DecidableEq

namespace RelativeTime

/-- The nanoseconds from midnight of the day to the time meant. Second and nanosecond are those of
the reference time. -/
def offset (t : RelativeTime) (now : TimeOfDay) : Nat :=
  ((t.hour * 60 + t.minute) * 60 + now.second) * nanosPerSecond + now.nanosecond

/-- The timestamp meant at the reference time `now`, unless the calendar ends before. -/
def resolve? (t : RelativeTime) (now : Timestamp) : Option Timestamp :=
  let offset := t.offset now.time
  let days := t.day.daysAfter now.date.weekday + offset / nanosPerDay
  (now.date.addDays? days).map fun date =>
    ⟨date, .ofNanoseconds (offset % nanosPerDay) (Nat.mod_lt _ (by decide))⟩

end RelativeTime

end Utterance
