import Utterance.Calendar.Timestamp
import Utterance.Text.Digits

set_option autoImplicit false

/-!
# The written form of timestamps

A timestamp is written as `2017-06-01T10:15:00`. Years outside 0 to 9999 carry a sign. Parts of a
second follow a point with three, six or nine digits, whichever is the first to be exact, and are
left out when there are none. A leap second is the second 60.

## Main definitions

* `Utterance.Calendar.Timestamp.text`: the written form.
-/

namespace Utterance.Calendar

open Utterance.Text

/-- The number of digits of a year: four, or as many as it needs. -/
def yearWidth (n : Nat) : Nat :=
  if n < 10000 then 4 else if n < 100000 then 5 else 6

/-- A year, with a sign unless it lies between 0 and 9999. -/
def yearText (year : Int) : List Char :=
  let digits := decimal (yearWidth year.natAbs) year.natAbs
  if year < 0 then '-' :: digits
  else if year ≤ 9999 then digits
  else '+' :: digits

/-- The parts of a second after the point, in the first exact number of digits. -/
def fractionText (nanosecond : Nat) : List Char :=
  if nanosecond = 0 then []
  else if nanosecond % 1000000 = 0 then '.' :: decimal 3 (nanosecond / 1000000)
  else if nanosecond % 1000 = 0 then '.' :: decimal 6 (nanosecond / 1000)
  else '.' :: decimal 9 nanosecond

/-- The written form of a date. -/
def Date.chars (d : Date) : List Char :=
  yearText d.year ++ '-' :: decimal 2 d.month ++ '-' :: decimal 2 d.day

/-- The written form of a time of day. -/
def TimeOfDay.chars (t : TimeOfDay) : List Char :=
  let second := if t.isLeapSecond then t.second + 1 else t.second
  decimal 2 t.hour ++ ':' :: decimal 2 t.minute ++ ':' :: decimal 2 second ++
    fractionText (t.nanosecond % nanosPerSecond)

/-- The written form of a timestamp, as characters. -/
def Timestamp.chars (t : Timestamp) : List Char := t.date.chars ++ 'T' :: t.time.chars

/-- The written form of a timestamp. -/
def Timestamp.text (t : Timestamp) : String := String.ofList t.chars

end Utterance.Calendar
