import Mathlib.Data.List.Lex
import Utterance.Calendar.Timestamp
import Utterance.Proofs.CalendarRoom

set_option autoImplicit false

/-!
# Days one after the other

The day after a date is said on year, month and day alone: the next day of the month, the first of
the next month, or New Year. Going from day to day in this way is the same as counting on the day
number, over month ends, leap days and the years before 1; it ends with the calendar, leads to later
dates, and the weekdays come round in their order.

## Main definitions

* `Utterance.Calendar.Date.later?`: the date reached by going on a number of days.
* `Utterance.Calendar.Timestamp.fields`: the numbers of a timestamp, by which it is earlier or later.

## Main results

* `Utterance.Calendar.Date.dayNumber_of_next?`: the following day has the following day number.
* `Utterance.Calendar.Date.later?_eq_addDays?`: going on day by day is counting days.
* `Utterance.Calendar.Date.weekday_of_later?`: the weekdays come round.
* `Utterance.Calendar.Date.fields_lt_iff`: the order of dates is that of their day numbers.
* `Utterance.Calendar.Timestamp.fields_lt_of_later?`: going on leads to later times.
-/

namespace Utterance.Calendar

/-! ## Weekdays -/

namespace Weekday

/-- A weekday comes again after whole weeks. -/
lemma ofIndex_mod_add (n k : ℕ) : ofIndex (n % 7 + k) = ofIndex (n + k) := by
  rw [ofIndex, ofIndex, Nat.mod_add_mod]

/-- The weekday of a number is the same after whole weeks. -/
lemma index_ofIndex (n : ℕ) : (ofIndex n).index = n % 7 := by
  have hlt : n % 7 < 7 := Nat.mod_lt n (by decide)
  rw [ofIndex]
  generalize n % 7 = i at hlt ⊢
  interval_cases i <;> rfl

/-- The first of the next seven days that is a weekday is the one that `daysUntil` counts to. -/
lemma ofIndex_index_add_eq_iff (w v : Weekday) {k : ℕ} (hpos : 1 ≤ k) (hle : k ≤ 7) :
    ofIndex (w.index + k) = v ↔ k = w.daysUntil v := by
  interval_cases k <;> cases w <;> cases v <;> decide

end Weekday

/-! ## The following day -/

namespace Date

variable {d e : Date} {k : ℕ}

/-- The days before a month end with the month before it. -/
lemma daysInMonths_add_one {lengths : List ℕ} {m : ℕ} (hm : m < lengths.length) :
    daysInMonths lengths (m + 1) = daysInMonths lengths m + lengths.getD m 0 := by
  induction lengths generalizing m with
  | nil => simp at hm
  | cons len lengths ih =>
    cases m with
    | zero => simp [daysInMonths]
    | succ m =>
      have hm' : m < lengths.length := by simpa using hm
      rw [daysInMonths, ih hm', daysInMonths, List.getD_cons_succ, Nat.add_assoc]

/-- Every month has a first day. -/
lemma monthLength_pos (year : ℤ) {month : ℕ} (hpos : 1 ≤ month) (hle : month ≤ 12) :
    1 ≤ monthLength year month := by
  rw [monthLength]
  cases isLeap year <;> interval_cases month <;> decide

/-- The last day of a month is a day before the first one of the next month. -/
lemma daysInYear_add_one_of_eq (hmonth : d.month < 12) (hday : d.day = monthLength d.year d.month) :
    d.daysInYear + 1 = daysInMonths (monthLengths (isLeap d.year)) d.month := by
  obtain ⟨hm, -⟩ := lt_monthLengths d
  obtain ⟨-, ⟨hmonth₁, -⟩, hday₁, -⟩ := d.valid
  have hadd := daysInMonths_add_one hm
  rw [show d.month - 1 + 1 = d.month by omega] at hadd
  rw [monthLength] at hday
  rw [daysInYear, hadd]
  omega

/-- The last day of December is the last day of the year. -/
lemma daysInYear_add_one_of_december (hmonth : d.month = 12)
    (hday : d.day = monthLength d.year d.month) :
    d.daysInYear + 1 = if isLeap d.year then 366 else 365 := by
  rw [monthLength, hmonth] at hday
  rw [daysInYear, hmonth, hday]
  cases isLeap d.year <;> rfl

/-- **The following day** has the following day number.

**Proof sketch.** Within a month the days count up. At the end of a month all of its days are over
(`daysInYear_add_one_of_eq`), at the end of December all days of the year
(`daysInYear_add_one_of_december`), and the years follow one another without a gap. -/
theorem dayNumber_of_next? (h : d.next? = some e) : e.dayNumber = d.dayNumber + 1 := by
  obtain ⟨-, ⟨hmonth₁, hmonth₂⟩, hday₁, hday₂⟩ := d.valid
  rw [next?] at h
  split at h
  · obtain ⟨hyear, hmonth, hday⟩ := of?_eq_some_iff.1 h
    rw [dayNumber, dayNumber, daysInYear, daysInYear, hyear, hmonth, hday]
    omega
  · rename_i hend
    have hlast : d.day = monthLength d.year d.month := by omega
    split at h
    · rename_i hlt
      obtain ⟨hyear, hmonth, hday⟩ := of?_eq_some_iff.1 h
      have hdays := daysInYear_add_one_of_eq hlt hlast
      rw [dayNumber, dayNumber, daysInYear, hyear, hmonth, hday, Nat.add_sub_cancel, ← hdays]
      omega
    · rename_i hge
      obtain ⟨hyear, hmonth, hday⟩ := of?_eq_some_iff.1 h
      have hdays := daysInYear_add_one_of_december (by omega) hlast
      rw [dayNumber, daysInYear, hyear, hmonth, hday, Nat.sub_self, daysInMonths_zero,
        daysBefore_add_one, dayNumber]
      split at hdays
      · rename_i hleap
        rw [if_pos hleap]
        omega
      · rename_i hleap
        rw [if_neg hleap]
        omega

/-- The last day of December of the last year is the last day. -/
lemma eq_last (hyear : d.year = lastYear) (hmonth : d.month = 12)
    (hday : d.day = monthLength d.year d.month) : d = last := by
  have hlength : monthLength lastYear 12 = 31 := by decide
  rw [hyear, hmonth, hlength] at hday
  exact Date.ext hyear hmonth hday

/-- Only the last day of the calendar is followed by none. -/
lemma exists_next? (h : d.dayNumber < last.dayNumber) : ∃ e, d.next? = some e := by
  obtain ⟨⟨hyear₁, hyear₂⟩, ⟨hmonth₁, hmonth₂⟩, hday₁, hday₂⟩ := d.valid
  have hof {year : ℤ} {month day : ℕ} (hvalid : Valid year month day) :
      ∃ e, of? year month day = some e := ⟨⟨year, month, day, hvalid⟩, dif_pos hvalid⟩
  rw [next?]
  split
  · exact hof ⟨⟨hyear₁, hyear₂⟩, ⟨hmonth₁, hmonth₂⟩, by omega, by omega⟩
  · split
    · exact hof ⟨⟨hyear₁, hyear₂⟩, ⟨by omega, by omega⟩, le_rfl,
        monthLength_pos _ (by omega) (by omega)⟩
    · have hyear : d.year ≠ lastYear := by
        intro hyear
        have hlast : d = last := eq_last hyear (by omega) (by omega)
        rw [hlast] at h
        exact lt_irrefl _ h
      exact hof ⟨⟨by omega, by omega⟩, ⟨le_rfl, by decide⟩, le_rfl,
        monthLength_pos _ le_rfl (by decide)⟩

/-- The following day is the day one day later. -/
theorem next?_eq_addDays? (d : Date) : d.next? = d.addDays? 1 := by
  cases hadd : d.addDays? 1 with
  | none =>
    rw [Option.eq_none_iff_forall_ne_some]
    intro e he
    have hnumber := dayNumber_of_next? he
    rw [addDays?, Nat.cast_one, ← hnumber, ofDayNumber?_dayNumber] at hadd
    cases hadd
  | some e =>
    have hnumber := ofDayNumber?_eq_some_iff.1 hadd
    have hle := dayNumber_le_last e
    obtain ⟨e', he'⟩ := exists_next? (d := d) (by omega)
    rw [he', dayNumber_injective ((dayNumber_of_next? he').trans hnumber.symm)]

/-! ## Going on day by day -/

/-- The date reached from `d` by going on to the following day a number of times. -/
def later? (d : Date) : ℕ → Option Date
  | 0 => some d
  | k + 1 => (d.later? k).bind next?

/-- **Going on day by day** is counting days.

**Proof sketch.** Induction on the days. Each day is followed by the one with the next number
(`next?_eq_addDays?`), and behind the end of the calendar no more days come. -/
theorem later?_eq_addDays? (d : Date) (k : ℕ) : d.later? k = d.addDays? k := by
  induction k with
  | zero => rw [later?, addDays?, Nat.cast_zero, add_zero, ofDayNumber?_dayNumber]
  | succ k ih =>
    rw [later?, ih]
    cases hk : d.addDays? k with
    | none =>
      rw [Option.bind_none, eq_comm, Option.eq_none_iff_forall_ne_some]
      intro e he
      have hle := exists_addDays?_iff.1 ⟨e, he⟩
      obtain ⟨e', he'⟩ := exists_addDays?_iff.2 (show d.dayNumber + k ≤ last.dayNumber by omega)
      rw [hk] at he'
      cases he'
    | some e =>
      rw [Option.bind_some, next?_eq_addDays?, addDays?, ofDayNumber?_eq_some_iff.1 hk, addDays?,
        Nat.cast_add, add_assoc]

/-- Each step to the next day adds one to the day number. -/
lemma dayNumber_of_later? (h : d.later? k = some e) : e.dayNumber = d.dayNumber + k := by
  rw [later?_eq_addDays?] at h
  exact ofDayNumber?_eq_some_iff.1 h

/-- Every date with a later day number can be reached. -/
lemma exists_later?_of_dayNumber_lt (h : d.dayNumber < e.dayNumber) :
    ∃ k, 0 < k ∧ d.later? k = some e := by
  refine ⟨(e.dayNumber - d.dayNumber).toNat, by omega, ?_⟩
  rw [later?_eq_addDays?, addDays?, ofDayNumber?_eq_some_iff]
  omega

/-- **The weekdays come round** from day to day. -/
theorem weekday_of_later? (h : d.later? k = some e) :
    e.weekday = Weekday.ofIndex (d.weekday.index + k) := by
  have hnumber := dayNumber_of_later? h
  have hmod : (e.dayNumber % 7).toNat = ((d.dayNumber % 7).toNat + k) % 7 := by omega
  rw [weekday, weekday, hmod, Weekday.index_ofIndex, Weekday.ofIndex_mod_add, Weekday.ofIndex,
    Weekday.ofIndex, Nat.mod_mod]

end Date

/-! ## Earlier and later -/

/-- The numbers of a date, from the year down. -/
def Date.fields (d : Date) : List ℤ := [d.year, d.month, d.day]

/-- The numbers of a time of day, from the hour down. -/
def TimeOfDay.fields (t : TimeOfDay) : List ℤ := [t.hour, t.minute, t.second, t.nanosecond]

/-- The numbers of a timestamp, from the year down to the nanosecond. The first place where two
timestamps differ tells which one is earlier. -/
def Timestamp.fields (s : Timestamp) : List ℤ := s.date.fields ++ s.time.fields

/-- The following day is later. -/
lemma Date.fields_lt_of_next? {d e : Date} (h : d.next? = some e) : d.fields < e.fields := by
  simp only [fields, List.cons_lt_cons_iff]
  rw [next?] at h
  split at h
  · obtain ⟨hyear, hmonth, hday⟩ := of?_eq_some_iff.1 h
    omega
  · split at h
    · obtain ⟨hyear, hmonth, hday⟩ := of?_eq_some_iff.1 h
      omega
    · obtain ⟨hyear, hmonth, hday⟩ := of?_eq_some_iff.1 h
      omega

/-- Going on leads to later dates. -/
lemma Date.fields_lt_of_later? {d e : Date} {k : ℕ} (hk : 0 < k) (h : d.later? k = some e) :
    d.fields < e.fields := by
  induction k generalizing e with
  | zero => exact absurd hk (lt_irrefl 0)
  | succ k ih =>
    rw [later?] at h
    obtain ⟨f, hf, hnext⟩ := Option.bind_eq_some_iff.1 h
    obtain rfl | hpos := Nat.eq_zero_or_pos k
    · cases hf
      exact fields_lt_of_next? hnext
    · exact List.lt_trans (ih hpos hf) (fields_lt_of_next? hnext)

/-- **The order of dates** is the order of their day numbers. -/
theorem Date.fields_lt_iff {d e : Date} : d.fields < e.fields ↔ d.dayNumber < e.dayNumber := by
  constructor
  · intro hlt
    by_contra hge
    obtain heq | hgt := (Int.not_lt.1 hge).eq_or_lt
    · exact List.lt_irrefl _ (dayNumber_injective heq ▸ hlt)
    · obtain ⟨k, hk, hlater⟩ := exists_later?_of_dayNumber_lt hgt
      exact List.lt_irrefl _ (List.lt_trans hlt (fields_lt_of_later? hk hlater))
  · intro hlt
    obtain ⟨k, hk, hlater⟩ := exists_later?_of_dayNumber_lt hlt
    exact fields_lt_of_later? hk hlater

/-- **Going on leads to later times**, whatever the time of day. -/
theorem Timestamp.fields_lt_of_later? {s t : Timestamp} {k : ℕ} (hk : 0 < k)
    (h : s.date.later? k = some t.date) : s.fields < t.fields := by
  have hdate := Date.fields_lt_of_later? hk h
  simp only [fields, Date.fields, List.cons_append, List.nil_append, List.cons_lt_cons_iff] at hdate ⊢
  simp only [List.not_lt_nil, and_false, or_false] at hdate
  omega

end Utterance.Calendar
