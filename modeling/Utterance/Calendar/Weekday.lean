set_option autoImplicit false

/-!
# Weekdays

## Main definitions

* `Utterance.Calendar.Weekday`: the seven weekdays, from Monday to Sunday.
* `Utterance.Calendar.Weekday.daysUntil`: the way from one weekday to the next day that is another.
* `Utterance.Calendar.Weekday.ofName?`: the weekday of an English name.

## Main results

* `Utterance.Calendar.Weekday.ofIndex_index`: a weekday is found again from its place in the week.
* `Utterance.Calendar.Weekday.daysUntil_pos`, `Utterance.Calendar.Weekday.daysUntil_le`: the way
  is between one and seven days long.
* `Utterance.Calendar.Weekday.ofName?_eq_some_iff`: the names of a weekday.
-/

namespace Utterance.Calendar

/-- The weekdays. -/
inductive Weekday where
  | monday | tuesday | wednesday | thursday | friday | saturday | sunday
  deriving DecidableEq

namespace Weekday

/-- The weekdays in the order of the week. -/
def all : List Weekday := [monday, tuesday, wednesday, thursday, friday, saturday, sunday]

/-- Every weekday is among the seven. -/
theorem mem_all (w : Weekday) : w ∈ all := by cases w <;> decide

/-- The number of days from the Monday of a week to its weekday `w`. -/
def index : Weekday → Nat
  | monday => 0
  | tuesday => 1
  | wednesday => 2
  | thursday => 3
  | friday => 4
  | saturday => 5
  | sunday => 6

/-- The weekday that comes `n` days after a Monday. -/
def ofIndex (n : Nat) : Weekday :=
  match n % 7 with
  | 0 => monday
  | 1 => tuesday
  | 2 => wednesday
  | 3 => thursday
  | 4 => friday
  | 5 => saturday
  | _ => sunday

/-- A weekday is found again from its index. -/
@[simp] theorem ofIndex_index (w : Weekday) : ofIndex w.index = w := by cases w <;> rfl

/-- The number of days from a day that is `w` to the first later day that is `v`: a week when both
are the same. -/
def daysUntil (w v : Weekday) : Nat :=
  match (v.index + 7 - w.index) % 7 with
  | 0 => 7
  | n + 1 => n + 1

/-- The next of any weekday is a day ahead at least. -/
theorem daysUntil_pos (w v : Weekday) : 0 < w.daysUntil v := by
  cases w <;> cases v <;> decide

/-- The next of any weekday is seven days ahead at most. -/
theorem daysUntil_le (w v : Weekday) : w.daysUntil v ≤ 7 := by
  cases w <;> cases v <;> decide

/-- The English name, in lower case. -/
def name : Weekday → String
  | monday => "monday"
  | tuesday => "tuesday"
  | wednesday => "wednesday"
  | thursday => "thursday"
  | friday => "friday"
  | saturday => "saturday"
  | sunday => "sunday"

/-- The first three letters of the name. -/
def shortName : Weekday → String
  | monday => "mon"
  | tuesday => "tue"
  | wednesday => "wed"
  | thursday => "thu"
  | friday => "fri"
  | saturday => "sat"
  | sunday => "sun"

/-- The weekday whose name or short name is `s`. -/
def ofName? (s : String) : Option Weekday :=
  all.find? fun w => s == w.name || s == w.shortName

/-- A weekday is found by its full name. -/
@[simp] theorem ofName?_name (w : Weekday) : ofName? w.name = some w := by cases w <;> decide

/-- A weekday is found by its short name. -/
@[simp] theorem ofName?_shortName (w : Weekday) : ofName? w.shortName = some w := by
  cases w <;> decide

/-- A weekday has two names. -/
theorem ofName?_eq_some_iff {s : String} {w : Weekday} :
    ofName? s = some w ↔ s = w.name ∨ s = w.shortName := by
  constructor
  · intro h
    have hname := List.find?_some h
    simpa using hname
  · rintro (rfl | rfl) <;> simp

end Weekday

end Utterance.Calendar
