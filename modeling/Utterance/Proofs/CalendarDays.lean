import Utterance.Proofs.Instants
import Utterance.Proofs.Successors

set_option autoImplicit false

/-!
# The day a time falls on

A relative time with an hour and a minute of the day falls on the day that it names and keeps the
second of the reference time. The day is said on year, month and day: today is the reference day,
tomorrow the day after it, and a weekday the first later date that is one, which comes a week later
when the reference day is one itself.

## Main definitions

* `Utterance.Day.FallsOn`: the date that is meant by a day, and how many days it lies ahead.

## Main results

* `Utterance.Day.fallsOn_iff`: the days counted up to the day meant lead to that date.
* `Utterance.RelativeTime.resolve?_eq_map_later?`: a time of the day falls on the date reached.
* `Utterance.RelativeTime.resolve?_fallsOn`: a time falls on the day that it names.
-/

namespace Utterance

open Calendar

/-! ## The day meant -/

/-- Seen from the date `d`, the day means the date `e`, which is `k` days ahead. A weekday means the
first later date that is one, within a week. -/
def Day.FallsOn (day : Day) (d : Date) (k : ℕ) (e : Date) : Prop :=
  d.later? k = some e ∧
    match day with
    | today => k = 0
    | tomorrow => k = 1
    | next w => (1 ≤ k ∧ k ≤ 7) ∧ e.weekday = w ∧
        ∀ f : Date, d.fields < f.fields → f.fields < e.fields → f.weekday ≠ w

namespace Day

variable {day : Day} {d e : Date} {k : ℕ} {w : Weekday}

/-- Within a week the date of a weekday is known from the weekdays alone. -/
lemma weekday_eq_iff (h : d.later? k = some e) (hpos : 1 ≤ k) (hle : k ≤ 7) :
    e.weekday = w ↔ k = d.weekday.daysUntil w := by
  rw [Date.weekday_of_later? h, Weekday.ofIndex_index_add_eq_iff _ _ hpos hle]

/-- No earlier date is the weekday to which `daysUntil` counts. -/
lemma weekday_ne_of_fields_lt {f : Date} (h : d.later? (d.weekday.daysUntil w) = some e)
    (hdf : d.fields < f.fields) (hfe : f.fields < e.fields) : f.weekday ≠ w := by
  obtain ⟨j, hj, hlater⟩ := Date.exists_later?_of_dayNumber_lt (Date.fields_lt_iff.1 hdf)
  have hnumber := Date.fields_lt_iff.1 hfe
  rw [Date.dayNumber_of_later? hlater, Date.dayNumber_of_later? h] at hnumber
  have hle := Weekday.daysUntil_le d.weekday w
  rw [ne_eq, weekday_eq_iff hlater hj (by omega)]
  omega

/-- **The days counted** up to the day meant lead to the date meant, and no other number of days
does. -/
theorem fallsOn_iff :
    day.FallsOn d k e ↔ k = day.daysAfter d.weekday ∧ d.later? k = some e := by
  unfold FallsOn
  rw [and_comm, and_congr_left_iff]
  intro hlater
  cases day with
  | today => rfl
  | tomorrow => rfl
  | next w =>
    constructor
    · rintro ⟨⟨hpos, hle⟩, hw, -⟩
      exact (weekday_eq_iff hlater hpos hle).1 hw
    · rintro rfl
      have hpos := Weekday.daysUntil_pos d.weekday w
      have hle := Weekday.daysUntil_le d.weekday w
      exact ⟨⟨hpos, hle⟩, (weekday_eq_iff hlater hpos hle).2 rfl,
        fun f => weekday_ne_of_fields_lt hlater⟩

/-- A weekday is never the reference day itself. -/
lemma eq_seven_of_fallsOn (h : (next d.weekday).FallsOn d k e) : k = 7 := by
  have hself (v : Weekday) : v.daysUntil v = 7 := by cases v <;> rfl
  exact (fallsOn_iff.1 h).1.trans (hself d.weekday)

/-- Every day but today lies ahead. -/
lemma pos_of_fallsOn (h : day.FallsOn d k e) (hday : day ≠ today) : 0 < k := by
  obtain ⟨rfl, -⟩ := fallsOn_iff.1 h
  cases day with
  | today => contradiction
  | tomorrow => exact Nat.one_pos
  | next w => exact Weekday.daysUntil_pos _ _

end Day

/-! ## Times of the day meant -/

namespace RelativeTime

section OfDay

variable {t : RelativeTime} {now : Timestamp} (hleap : now.time.isLeapSecond = false)
  (hhour : t.hour ≤ 23) (hminute : t.minute ≤ 59)

include hhour hminute

/-- Hour and minute make a time of day with the second of the reference time. -/
lemma valid_ofDay :
    TimeOfDay.Valid t.hour t.minute now.time.second now.time.nanosecond := by
  obtain ⟨-, -, hsecond, hnanosecond, hlast⟩ := now.time.valid
  exact ⟨by omega, by omega, hsecond, hnanosecond, hlast⟩

include hleap

/-- A time of the day is over before the next midnight. -/
lemma offset_lt_nanosPerDay : t.offset now.time < nanosPerDay := by
  obtain ⟨-, -, hsecond, -, -⟩ := now.time.valid
  rw [TimeOfDay.isLeapSecond, decide_eq_false_iff_not] at hleap
  simp only [offset, nanosPerDay, nanosPerSecond] at *
  omega

/-- **A time of the day falls on the date reached** by the days counted. -/
theorem resolve?_eq_map_later? :
    t.resolve? now = (now.date.later? (t.day.daysAfter now.date.weekday)).map fun date =>
      ⟨date, t.hour, t.minute, now.time.second, now.time.nanosecond,
        valid_ofDay hhour hminute⟩ := by
  have hlt := offset_lt_nanosPerDay hleap hhour hminute
  have hdays : t.offset now.time / nanosPerDay = 0 := Nat.div_eq_of_lt hlt
  rw [resolve?, hdays, Nat.add_zero, Date.later?_eq_addDays?]
  congr 1
  funext date
  refine Timestamp.ext rfl (TimeOfDay.ofNanoseconds_eq (Nat.mod_lt _ (by decide)) hleap ?_)
  rw [Nat.mod_eq_of_lt hlt]
  rfl

end OfDay

/-- **A time falls on the day that it names.** Outside leap seconds, let a time have an hour up to 23
and a minute up to 59. The timestamp meant is the one on the date that the day means, at the hour and
the minute of the time and the second and nanosecond of the reference time; there is one whenever
that date is in the calendar. The weekday of the reference day is a week ahead, and every day but
today is later than the reference time.

**Proof sketch.** The time is over before the next midnight, so it falls on the date to which the
days counted lead (`resolve?_eq_map_later?`), and that is the date meant (`Day.fallsOn_iff`). -/
theorem resolve?_fallsOn {t : RelativeTime} {now : Timestamp}
    (hleap : now.time.isLeapSecond = false) (hhour : t.hour ≤ 23) (hminute : t.minute ≤ 59) :
    (∀ stamp, t.resolve? now = some stamp ↔
      (∃ k, t.day.FallsOn now.date k stamp.date) ∧
      stamp.time.hour = t.hour ∧ stamp.time.minute = t.minute ∧
      stamp.time.second = now.time.second ∧ stamp.time.nanosecond = now.time.nanosecond) ∧
    (∀ k target, t.day.FallsOn now.date k target →
      (∃ stamp, t.resolve? now = some stamp ∧ stamp.date = target) ∧
      (t.day = .next now.date.weekday → k = 7)) ∧
    (∀ stamp, t.resolve? now = some stamp → t.day ≠ .today → now.fields < stamp.fields) := by
  have hmap := resolve?_eq_map_later? hleap hhour hminute
  have hiff (stamp : Timestamp) : t.resolve? now = some stamp ↔
      (∃ k, t.day.FallsOn now.date k stamp.date) ∧
      stamp.time.hour = t.hour ∧ stamp.time.minute = t.minute ∧
      stamp.time.second = now.time.second ∧ stamp.time.nanosecond = now.time.nanosecond := by
    simp only [hmap, Option.map_eq_some_iff, Day.fallsOn_iff, exists_eq_left]
    constructor
    · rintro ⟨date, hdate, rfl⟩
      exact ⟨hdate, rfl, rfl, rfl, rfl⟩
    · rintro ⟨hdate, hh, hm, hs, hn⟩
      exact ⟨stamp.date, hdate,
        Timestamp.ext rfl (TimeOfDay.ext hh.symm hm.symm hs.symm hn.symm)⟩
  refine ⟨hiff, fun k target hfalls => ⟨?_, fun hday => ?_⟩, fun stamp hstamp hday => ?_⟩
  · obtain ⟨rfl, hlater⟩ := Day.fallsOn_iff.1 hfalls
    exact ⟨_, by rw [hmap, hlater, Option.map_some], rfl⟩
  · rw [hday] at hfalls
    exact Day.eq_seven_of_fallsOn hfalls
  · obtain ⟨⟨k, hfalls⟩, -⟩ := (hiff stamp).1 hstamp
    exact Timestamp.fields_lt_of_later? (Day.pos_of_fallsOn hfalls hday) hfalls.1

/-- The end of a Thursday in February of the leap year 0. -/
def endOfThursday : Timestamp :=
  ⟨⟨0, 2, 24, by decide⟩, ⟨23, 59, 59, 999999999, by decide⟩⟩

/-- From a Thursday `on thursday` leads over the leap day of the year 0 to 2 March, and midnight
there is later although it is earlier in the day. -/
theorem resolve?_fallsOn_thursday :
    endOfThursday.time.isLeapSecond = false ∧
      (⟨.next .thursday, 0, 0⟩ : RelativeTime).hour ≤ 23 ∧
      (⟨.next .thursday, 0, 0⟩ : RelativeTime).minute ≤ 59 ∧
      ∃ target stamp, (Day.next .thursday).FallsOn endOfThursday.date 7 target ∧
        target.fields = [0, 3, 2] ∧
        (⟨.next .thursday, 0, 0⟩ : RelativeTime).resolve? endOfThursday = some stamp ∧
        stamp.date = target ∧ endOfThursday.fields < stamp.fields := by
  have hleap : endOfThursday.time.isLeapSecond = false := by decide
  have hfalls : (Day.next .thursday).FallsOn endOfThursday.date 7 ⟨0, 3, 2, by decide⟩ :=
    Day.fallsOn_iff.2 ⟨by decide, by decide⟩
  obtain ⟨-, htarget, hlater⟩ := resolve?_fallsOn (t := ⟨.next .thursday, 0, 0⟩) hleap (by decide)
    (by decide)
  obtain ⟨⟨stamp, hstamp, hdate⟩, -⟩ := htarget 7 _ hfalls
  exact ⟨hleap, by decide, by decide, _, stamp, hfalls, by decide, hstamp, hdate,
    hlater stamp hstamp (by decide)⟩

end RelativeTime

end Utterance
