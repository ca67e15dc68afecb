import Utterance.Proofs.Instants

set_option autoImplicit false

/-!
# Exact times

A relative time is placed in the calendar by counting on from the midnight at which the reference
day begins: the days up to the day meant, then the hours, the minutes, and the second and nanosecond
of the reference time. The count is exact, however large the hour and the minute are, and a time has
no place in the calendar only when the calendar ends before its day. It is the same whether the parts
are added one after the other or all at once.

## Main definitions

* `Utterance.RelativeTime.instantAt`: the instant that a relative time means.
* `Utterance.RelativeTime.addUp?`: the timestamp meant, by adding part after part.

## Main results

* `Utterance.RelativeTime.resolve?_eq_ofInstant?`: the timestamp meant is that of the instant meant.
* `Utterance.RelativeTime.addUp?_eq_ofInstant?`: adding part after part leads there too.
* `Utterance.RelativeTime.resolve?_exact`: what the timestamp meant is, and when there is none.
-/

namespace Utterance

namespace Calendar

/-- The nanoseconds in a minute. -/
def nanosPerMinute : ℕ := 60 * nanosPerSecond

/-- The nanoseconds in an hour. -/
def nanosPerHour : ℕ := 60 * nanosPerMinute

namespace Timestamp

/-- Days later the same midnight is that of the day meant. -/
lemma map_midnight_addDays? (d : Date) (k : ℕ) :
    (d.addDays? k).map Date.midnight = d.midnight.add? (k * nanosPerDay) := by
  have hday : (d.midnight.instant + (k * nanosPerDay : ℕ)) / nanosPerDay = d.dayNumber + k := by
    rw [instant_midnight]
    simp only [nanosPerDay, nanosPerSecond]
    omega
  have htime : ((d.midnight.instant + (k * nanosPerDay : ℕ)) % nanosPerDay).toNat = 0 := by
    rw [instant_midnight]
    simp only [nanosPerDay, nanosPerSecond]
    omega
  rw [add?_eq_ofInstant? (isLeapSecond_midnight d)]
  simp only [ofInstant?, hday, htime]
  rfl

end Timestamp

end Calendar

namespace RelativeTime

open Calendar Timestamp

/-! ## The instant meant -/

/-- The instant meant at the reference time `now`: the days up to the day meant, the hours, the
minutes, and the second and nanosecond of `now`, after the midnight at which the day of `now`
begins. -/
def instantAt (t : RelativeTime) (now : Timestamp) : ℤ :=
  now.date.midnight.instant + (t.day.daysAfter now.date.weekday * nanosPerDay +
    t.hour * nanosPerHour + t.minute * nanosPerMinute + now.time.second * nanosPerSecond +
    now.time.nanosecond : ℕ)

/-- The calendar begins before the day meant. -/
lemma daysBefore_firstYear_le_instantAt (t : RelativeTime) (now : Timestamp) :
    daysBefore firstYear ≤ t.instantAt now / nanosPerDay := by
  rw [instantAt]
  exact daysBefore_firstYear_le_add _ _

/-- The timestamp meant is that of the instant meant. -/
theorem resolve?_eq_ofInstant? (t : RelativeTime) (now : Timestamp) :
    t.resolve? now = ofInstant? (t.instantAt now) := by
  have hday : now.date.dayNumber +
      (t.day.daysAfter now.date.weekday + t.offset now.time / nanosPerDay : ℕ) =
        t.instantAt now / nanosPerDay := by
    rw [instantAt, instant_midnight]
    simp only [offset, nanosPerDay, nanosPerHour, nanosPerMinute, nanosPerSecond]
    omega
  have htime : t.offset now.time % nanosPerDay = (t.instantAt now % nanosPerDay).toNat := by
    rw [instantAt, instant_midnight]
    simp only [offset, nanosPerDay, nanosPerHour, nanosPerMinute, nanosPerSecond]
    omega
  simp only [resolve?, Date.addDays?, hday, htime]
  rfl

/-! ## Adding part after part -/

/-- The timestamp meant at `now`, by adding the days to the date and then hours, minutes, seconds
and nanoseconds to the midnight of the day reached. -/
def addUp? (t : RelativeTime) (now : Timestamp) : Option Timestamp := do
  let date ← now.date.addDays? (t.day.daysAfter now.date.weekday)
  let hour ← date.midnight.add? (t.hour * nanosPerHour)
  let minute ← hour.add? (t.minute * nanosPerMinute)
  let second ← minute.add? (now.time.second * nanosPerSecond)
  second.add? now.time.nanosecond

/-- The parts that are added, in their order. -/
def parts (t : RelativeTime) (now : Timestamp) : List ℕ :=
  [t.day.daysAfter now.date.weekday * nanosPerDay, t.hour * nanosPerHour,
    t.minute * nanosPerMinute, now.time.second * nanosPerSecond, now.time.nanosecond]

/-- The instant of a relative time is midnight with all its parts added. -/
lemma instantAt_eq_sum_parts (t : RelativeTime) (now : Timestamp) :
    t.instantAt now = now.date.midnight.instant + ((t.parts now).sum : ℕ) := by
  -- said of any five parts, since the kernel would count the products of these ones out
  have hsum (a b c d e : ℕ) : [a, b, c, d, e].sum = a + b + c + d + e := by
    simp only [List.sum_cons, List.sum_nil]
    omega
  rw [instantAt, parts, hsum]

/-- The days are added to the midnight like the other parts. -/
lemma addUp?_eq_foldlM (t : RelativeTime) (now : Timestamp) :
    t.addUp? now = (t.parts now).foldlM add? now.date.midnight := by
  rw [parts, List.foldlM_cons, ← map_midnight_addDays?, addUp?]
  cases now.date.addDays? (t.day.daysAfter now.date.weekday) <;> simp

/-- Adding part after part leads to the instant meant. -/
theorem addUp?_eq_ofInstant? (t : RelativeTime) (now : Timestamp) :
    t.addUp? now = ofInstant? (t.instantAt now) := by
  rw [addUp?_eq_foldlM, foldlM_add? (isLeapSecond_midnight now.date), instantAt_eq_sum_parts]

/-- When the day meant is in the calendar, so is every sum on the way. -/
lemma exists_foldlM_add? {t : RelativeTime} {now : Timestamp} {front : List ℕ}
    (hday : t.instantAt now / nanosPerDay ≤ Date.last.dayNumber) (hfront : front <+: t.parts now) :
    ∃ sum, front.foldlM add? now.date.midnight = some sum ∧
      sum.instant = now.date.midnight.instant + (front.sum : ℕ) ∧
      sum.time.isLeapSecond = false := by
  obtain ⟨back, hback⟩ := hfront
  have hfold := foldlM_add? (isLeapSecond_midnight now.date) front
  cases hsum : front.foldlM add? now.date.midnight with
  | some sum => exact ⟨sum, rfl, ofInstant?_eq_some_iff.1 (hfold.symm.trans hsum)⟩
  | none =>
    -- the calendar would have ended before the sum, and so before the instant meant
    have hfirst := daysBefore_firstYear_le_add now.date.midnight front.sum
    have hnone : ofInstant? (t.instantAt now) = none := by
      rw [instantAt_eq_sum_parts, ← hback, List.sum_append, Nat.cast_add, ← add_assoc]
      exact ofInstant?_add_eq_none hfirst (hfold.symm.trans hsum)
    rw [ofInstant?_eq_none_iff (daysBefore_firstYear_le_instantAt t now)] at hnone
    omega

/-- **Resolving is exact.** At every reference time, also in a leap second, and for every hour and
minute, the timestamp meant is the one of the instant meant that lies in no leap second. There is
none exactly when the day of that instant comes after the last day of the calendar; it never comes
before the first one. Adding the parts one after the other gives the same answer, and when the day
meant is in the calendar every sum on the way is too: it is exact and lies in no leap second.

**Proof sketch.** Both ways of adding lead to the timestamp of the instant meant
(`resolve?_eq_ofInstant?`, `addUp?_eq_ofInstant?`), since from a time in no leap second one addition
leads to an instant and to no leap second again (`Timestamp.foldlM_add?`). Only the end of the
calendar is ever in the way, and behind it every later sum is out of the calendar too. -/
theorem resolve?_exact (t : RelativeTime) (now : Timestamp) :
    (∀ stamp, t.resolve? now = some stamp ↔
      stamp.instant = t.instantAt now ∧ stamp.time.isLeapSecond = false) ∧
    (t.resolve? now = none ↔ Date.last.dayNumber < t.instantAt now / nanosPerDay) ∧
    daysBefore firstYear ≤ t.instantAt now / nanosPerDay ∧
    t.addUp? now = t.resolve? now ∧
    t.addUp? now = (t.parts now).foldlM add? now.date.midnight ∧
    (t.instantAt now / nanosPerDay ≤ Date.last.dayNumber → ∀ front, front <+: t.parts now →
      ∃ sum, front.foldlM add? now.date.midnight = some sum ∧
        sum.instant = now.date.midnight.instant + (front.sum : ℕ) ∧
        sum.time.isLeapSecond = false) := by
  have hfirst := daysBefore_firstYear_le_instantAt t now
  refine ⟨fun stamp => ?_, ?_, hfirst, ?_, addUp?_eq_foldlM t now,
    fun hday front hfront => exists_foldlM_add? hday hfront⟩
  · rw [resolve?_eq_ofInstant?, ofInstant?_eq_some_iff]
  · rw [resolve?_eq_ofInstant?, ofInstant?_eq_none_iff hfirst]
  · rw [addUp?_eq_ofInstant?, resolve?_eq_ofInstant?]

/-- A quarter of a second into the leap second of New Year's Eve. -/
def newYearsEve : Timestamp :=
  ⟨⟨2016, 12, 31, by decide⟩, ⟨23, 59, 59, 1250000000, by decide⟩⟩

/-- Within a leap second its nanoseconds count for a second more: with them the minute before one
o'clock of the next day is over. -/
theorem resolve?_newYearsEve :
    (⟨.today, 24, 59⟩ : RelativeTime).resolve? newYearsEve =
      some ⟨⟨2017, 1, 1, by decide⟩, ⟨1, 0, 0, 250000000, by decide⟩⟩ ∧
    (⟨.today, 24, 59⟩ : RelativeTime).instantAt newYearsEve / nanosPerDay ≤ Date.last.dayNumber ∧
    ∃ sum, ((⟨.today, 24, 59⟩ : RelativeTime).parts newYearsEve).foldlM add?
        newYearsEve.date.midnight = some sum ∧ sum.time.isLeapSecond = false := by
  have hday : (⟨.today, 24, 59⟩ : RelativeTime).instantAt newYearsEve / nanosPerDay ≤
      Date.last.dayNumber := by decide
  obtain ⟨hsome, -, -, -, -, hsums⟩ := resolve?_exact ⟨.today, 24, 59⟩ newYearsEve
  obtain ⟨sum, hsum, -, hleap⟩ := hsums hday _ List.prefix_rfl
  exact ⟨(hsome _).2 ⟨by decide, by decide⟩, hday, sum, hsum, hleap⟩

end RelativeTime

end Utterance
