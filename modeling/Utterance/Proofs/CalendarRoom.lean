import Mathlib.Tactic.ByContra
import Mathlib.Tactic.IntervalCases
import Mathlib.Tactic.Lemma
import Utterance.Calendar.Date.Lemmas
import Utterance.RelativeTime

set_option autoImplicit false

/-!
# Room in the calendar

The calendar ends, so a time meant may lie behind its end. Counting days leads out of the calendar
only past its last day. The times that phrases name lie at most eight days ahead: a weekday seven
days, and the hour 24 or a leap second one day more.

## Main definitions

* `Utterance.Calendar.Date.last`: the last day of the calendar.
* `Utterance.Calendar.Timestamp.HasRoom`: eight more days follow.
* `Utterance.Calendar.Timestamp.lastWithRoom`: the last moment with that.

## Main results

* `Utterance.Calendar.Date.exists_addDays?_iff`: which days later are in the calendar.
* `Utterance.Calendar.Timestamp.not_hasRoom_iff`: the last eight days of the calendar.
* `Utterance.RelativeTime.exists_resolve?`: with eight days to follow every time is in the calendar.
-/

namespace Utterance

namespace Calendar

namespace Date

/-! ## The days of the calendar -/

/-- The last day of the calendar. -/
def last : Date := ⟨lastYear, 12, 31, by decide⟩

/-- The year after the last one begins with the day after the last one. -/
lemma dayNumber_last : last.dayNumber + 1 = daysBefore (lastYear + 1) := by
  decide

/-- No date lies before the first year. -/
lemma daysBefore_firstYear_le (d : Date) : daysBefore firstYear ≤ d.dayNumber := by
  have hyear := daysBefore_le d.valid.1.1
  rw [dayNumber]
  omega

/-- A day comes before the next year. -/
lemma dayNumber_lt (d : Date) : d.dayNumber < daysBefore (d.year + 1) := by
  have hday := daysInYear_lt d
  rw [dayNumber, daysBefore_add_one]
  split at hday
  · rename_i hleap
    rw [if_pos hleap]
    omega
  · rename_i hleap
    rw [if_neg hleap]
    omega

/-- No date lies behind the last one. -/
lemma dayNumber_le_last (d : Date) : d.dayNumber ≤ last.dayNumber := by
  have hyear := daysBefore_le (show d.year + 1 ≤ lastYear + 1 by have := d.valid.1.2; omega)
  have hlt := dayNumber_lt d
  rw [← dayNumber_last] at hyear
  omega

/-- The last week and a day of the calendar begin on 24 December. -/
lemma last_lt_dayNumber_add_eight_iff {d : Date} :
    last.dayNumber < d.dayNumber + 8 ↔ d.year = lastYear ∧ d.month = 12 ∧ 24 ≤ d.day := by
  have hlast : last.dayNumber = daysBefore lastYear + 364 := by decide
  obtain ⟨⟨-, hyear⟩, ⟨hmonth₁, hmonth₂⟩, hday₁, hday₂⟩ := d.valid
  by_cases heq : d.year = lastYear
  · -- the last year is no leap year, so the days before 24 December are 357
    have hleap : isLeap lastYear = false := by decide
    rw [monthLength, heq, hleap] at hday₂
    rw [hlast, dayNumber, daysInYear, heq, hleap]
    generalize d.month = month at *
    interval_cases month <;> simp [daysInMonths, monthLengths] at * <;> omega
  · -- a day of an earlier year has the whole last year after it
    have hlt := dayNumber_lt d
    have hbefore := daysBefore_le (show d.year + 1 ≤ lastYear by omega)
    constructor
    · omega
    · exact fun h => absurd h.1 heq

/-- Every day number from the first to the last of the calendar is that of a date. -/
lemma exists_dayNumber_eq {n : Int} (hfirst : daysBefore firstYear ≤ n)
    (hlast : n ≤ last.dayNumber) : ∃ d : Date, d.dayNumber = n := by
  have hle := daysBefore_yearOf_le n
  have hlt := lt_daysBefore_yearOf n
  have hyear₁ : firstYear ≤ yearOf n := by
    by_contra hcontra
    have := daysBefore_le (show yearOf n + 1 ≤ firstYear by omega)
    omega
  have hyear₂ : yearOf n ≤ lastYear := by
    by_contra hcontra
    have := daysBefore_le (show lastYear + 1 ≤ yearOf n by omega)
    have := dayNumber_last
    omega
  -- the month and the day of the month are within their bounds in every year
  have hdays : (n - daysBefore (yearOf n)).toNat < daysInMonths (monthLengths (isLeap (yearOf n)))
      (monthLengths (isLeap (yearOf n))).length := by
    rw [length_monthLengths, daysInMonths_monthLengths]
    rw [daysBefore_add_one] at hlt
    split at hlt
    · rename_i hleap
      rw [if_pos hleap]
      omega
    · rename_i hleap
      rw [if_neg hleap]
      omega
  obtain ⟨hmonth, hday, -⟩ := monthAndDay_of_lt hdays
  rw [length_monthLengths] at hmonth
  exact ⟨⟨yearOf n, _, _, ⟨hyear₁, hyear₂⟩, hmonth, hday⟩,
    dayNumber_of_ofDayNumber? (of?_eq_some_iff.2 ⟨rfl, rfl, rfl⟩)⟩

/-- A day some days later is in the calendar unless it lies behind the last one. -/
theorem exists_addDays?_iff {d : Date} {n : Nat} :
    (∃ e, d.addDays? n = some e) ↔ d.dayNumber + n ≤ last.dayNumber := by
  simp only [addDays?, ofDayNumber?_eq_some_iff]
  constructor
  · rintro ⟨e, he⟩
    exact he ▸ dayNumber_le_last e
  · intro h
    exact exists_dayNumber_eq (by have := daysBefore_firstYear_le d; omega) h

end Date

/-- The date is followed by eight more days at least. -/
def Timestamp.HasRoom (now : Timestamp) : Prop :=
  now.date.dayNumber + 8 ≤ Date.last.dayNumber

instance (now : Timestamp) : Decidable now.HasRoom :=
  inferInstanceAs (Decidable (_ ≤ _))

/-- Eight days follow up to 23 December of the last year. -/
lemma Timestamp.not_hasRoom_iff {now : Timestamp} : ¬ now.HasRoom ↔
    now.date.year = lastYear ∧ now.date.month = 12 ∧ 24 ≤ now.date.day := by
  rw [HasRoom, Int.not_le, Date.last_lt_dayNumber_add_eight_iff]

/-- The last moment that is followed by eight days, in a leap second. -/
def Timestamp.lastWithRoom : Timestamp :=
  ⟨⟨lastYear, 12, 23, by decide⟩, ⟨23, 59, 59, 1999999999, by decide⟩⟩

/-- The last time with room has room. -/
lemma Timestamp.hasRoom_lastWithRoom : lastWithRoom.HasRoom := by
  decide

end Calendar

namespace RelativeTime

open Calendar

/-! ## Times within eight days -/

/-- Up to hour 24 and minute 59 a time lies within the next two days after midnight. -/
lemma offset_lt {t : RelativeTime} (hhour : t.hour ≤ 24) (hminute : t.minute ≤ 59)
    (now : TimeOfDay) : t.offset now < 2 * nanosPerDay := by
  obtain ⟨-, -, hsecond, hnanosecond, -⟩ := now.valid
  simp only [offset, nanosPerDay, nanosPerSecond] at *
  omega

/-- A day of a relative time is seven days ahead at most. -/
lemma daysAfter_le (day : Day) (reference : Weekday) : day.daysAfter reference ≤ 7 := by
  cases day with
  | today => simp [Day.daysAfter]
  | tomorrow => simp [Day.daysAfter]
  | next weekday => exact reference.daysUntil_le weekday

/-- A time is in the calendar unless its day lies behind the last one. -/
theorem exists_resolve?_iff {t : RelativeTime} {now : Timestamp} :
    (∃ stamp, t.resolve? now = some stamp) ↔
      now.date.dayNumber +
          (t.day.daysAfter now.date.weekday + t.offset now.time / nanosPerDay : Nat) ≤
        Date.last.dayNumber := by
  rw [← Date.exists_addDays?_iff]
  constructor
  · rintro ⟨stamp, hstamp⟩
    obtain ⟨date, hdate, -⟩ := Option.map_eq_some_iff.1 hstamp
    exact ⟨date, hdate⟩
  · rintro ⟨date, hdate⟩
    exact ⟨_, Option.map_eq_some_iff.2 ⟨date, hdate, rfl⟩⟩

/-- With eight days to follow, a time up to hour 24 and minute 59 is in the calendar. -/
theorem exists_resolve? {t : RelativeTime} (hhour : t.hour ≤ 24) (hminute : t.minute ≤ 59)
    {now : Timestamp} (hnow : now.HasRoom) : ∃ stamp, t.resolve? now = some stamp := by
  have hday := daysAfter_le t.day now.date.weekday
  have hoffset := Nat.div_lt_of_lt_mul (Nat.mul_comm 2 _ ▸ offset_lt hhour hminute now.time)
  rw [exists_resolve?_iff]
  rw [Timestamp.HasRoom] at hnow
  omega

end RelativeTime

end Utterance
