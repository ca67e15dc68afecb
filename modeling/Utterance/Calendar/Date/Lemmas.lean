import Utterance.Calendar.Date

set_option autoImplicit false

/-!
# Dates and day numbers

Going to the day number and coming back are inverse to each other, so the dates of the calendar
are the day numbers between the first and the last one.

## Main results

* `Utterance.Calendar.Date.ofDayNumber?_eq_some_iff`: a date is the date of a day number exactly
  when that is its day number.
* `Utterance.Calendar.Date.dayNumber_injective`: dates with the same day number are the same.
-/

namespace Utterance.Calendar

/-! ## Years -/

/-- A later year begins later. -/
theorem daysBefore_add_nat (year : Int) (k : Nat) :
    daysBefore year + 365 * k ≤ daysBefore (year + k) := by
  induction k with
  | zero => simp
  | succ k ih =>
    have := daysBefore_add_one (year + k)
    rw [show year + ((k + 1 : Nat) : Int) = year + k + 1 by omega, this]
    split <;> omega

/-- A year does not begin before an earlier one. -/
theorem daysBefore_le {y z : Int} (h : y ≤ z) : daysBefore y ≤ daysBefore z := by
  have := daysBefore_add_nat y (z - y).toNat
  rw [show y + ((z - y).toNat : Int) = z by omega] at this
  omega

/-- A day number lies in one year only. -/
theorem yearOf_eq {n year : Int} (hle : daysBefore year ≤ n) (hlt : n < daysBefore (year + 1)) :
    yearOf n = year := by
  have h₁ := daysBefore_yearOf_le n
  have h₂ := lt_daysBefore_yearOf n
  rcases Int.lt_trichotomy (yearOf n) year with h | h | h
  · have := daysBefore_le (show yearOf n + 1 ≤ year by omega)
    omega
  · exact h
  · have := daysBefore_le (show year + 1 ≤ yearOf n by omega)
    omega

/-! ## Months -/

namespace Date

/-- The months of a year have as many days as the year. -/
theorem daysInMonths_monthLengths (leap : Bool) :
    daysInMonths (monthLengths leap) 12 = if leap then 366 else 365 := by
  cases leap <;> rfl

/-- A year has twelve months. -/
theorem length_monthLengths (leap : Bool) : (monthLengths leap).length = 12 := by
  cases leap <;> rfl

/-- No months have no days. -/
@[simp] theorem daysInMonths_zero (lengths : List Nat) : daysInMonths lengths 0 = 0 := by
  cases lengths <;> rfl

/-- The month and the day of the month that lie `n` days into the months. -/
theorem monthAndDay_of_lt {lengths : List Nat} {n : Nat}
    (h : n < daysInMonths lengths lengths.length) :
    let m := (monthAndDay lengths n).1
    let d := (monthAndDay lengths n).2
    (1 ≤ m ∧ m ≤ lengths.length) ∧ (1 ≤ d ∧ d ≤ lengths.getD (m - 1) 0) ∧
      daysInMonths lengths (m - 1) + (d - 1) = n := by
  induction lengths generalizing n with
  | nil => simp at h
  | cons len lengths ih =>
    simp only [monthAndDay]
    split
    · simp; omega
    · rw [List.length_cons, daysInMonths] at h
      obtain ⟨⟨hm₁, hm₂⟩, ⟨hd₁, hd₂⟩, hn⟩ := ih (n := n - len) (by omega)
      obtain ⟨m, hm⟩ : ∃ m, (monthAndDay lengths (n - len)).1 = m + 1 :=
        ⟨(monthAndDay lengths (n - len)).1 - 1, by omega⟩
      simp only [Prod.map_fst, Prod.map_snd, id_eq, hm, Nat.add_sub_cancel] at *
      refine ⟨⟨by omega, by simp; omega⟩, ⟨hd₁, by simpa using hd₂⟩, ?_⟩
      rw [daysInMonths]
      omega

/-- A month and a day of the month are found again. -/
theorem monthAndDay_daysInMonths {lengths : List Nat} {m d : Nat} (hm : m < lengths.length)
    (hd : d < lengths.getD m 0) :
    monthAndDay lengths (daysInMonths lengths m + d) = (m + 1, d + 1) := by
  induction lengths generalizing m with
  | nil => simp at hm
  | cons len lengths ih =>
    cases m with
    | zero =>
      simp only [List.getD_cons_zero] at hd
      simp [monthAndDay, hd]
    | succ m =>
      simp only [List.getD_cons_succ] at hd
      have := ih (by simpa using hm) hd
      rw [daysInMonths, monthAndDay, if_neg (by omega),
        show len + daysInMonths lengths m + d - len = daysInMonths lengths m + d by omega, this]
      rfl

/-- A day of a month lies before the end of all months. -/
theorem daysInMonths_add_lt {lengths : List Nat} {m d : Nat} (hm : m < lengths.length)
    (hd : d < lengths.getD m 0) :
    daysInMonths lengths m + d < daysInMonths lengths lengths.length := by
  induction lengths generalizing m with
  | nil => simp at hm
  | cons len lengths ih =>
    rw [List.length_cons, daysInMonths]
    cases m with
    | zero =>
      simp only [List.getD_cons_zero] at hd
      rw [daysInMonths_zero]
      omega
    | succ m =>
      simp only [List.getD_cons_succ] at hd
      have := ih (by simpa using hm) hd
      rw [daysInMonths]
      omega

/-! ## Dates -/

/-- Three numbers make a date when they are its year, month and day. -/
theorem of?_eq_some_iff {year : Int} {month day : Nat} {d : Date} :
    of? year month day = some d ↔ d.year = year ∧ d.month = month ∧ d.day = day := by
  constructor
  · intro h
    simp only [of?] at h
    split at h
    · simp only [Option.some.injEq] at h
      simp [← h]
    · simp at h
  · rintro ⟨rfl, rfl, rfl⟩
    exact of?_self d

/-- Month and day of a date, counted from zero, lie within the lengths of the months. -/
theorem lt_monthLengths (d : Date) :
    d.month - 1 < (monthLengths (isLeap d.year)).length ∧
      d.day - 1 < (monthLengths (isLeap d.year)).getD (d.month - 1) 0 := by
  obtain ⟨-, ⟨hm₁, hm₂⟩, hd₁, hd₂⟩ := d.valid
  rw [length_monthLengths]
  rw [monthLength] at hd₂
  omega

/-- The number of days before a date in its year is less than the length of the year. -/
theorem daysInYear_lt (d : Date) : d.daysInYear < if isLeap d.year then 366 else 365 := by
  obtain ⟨hm, hd⟩ := lt_monthLengths d
  rw [← daysInMonths_monthLengths, ← length_monthLengths (isLeap d.year)]
  exact daysInMonths_add_lt hm hd

/-- A date is found again from its day number. -/
@[simp] theorem ofDayNumber?_dayNumber (d : Date) : ofDayNumber? d.dayNumber = some d := by
  obtain ⟨hm, hd⟩ := lt_monthLengths d
  obtain ⟨-, ⟨hm₁, -⟩, hd₁, -⟩ := d.valid
  have hlt := daysInYear_lt d
  have hyear : yearOf d.dayNumber = d.year := by
    apply yearOf_eq
    · rw [dayNumber]
      omega
    · rw [daysBefore_add_one, dayNumber]
      by_cases hleap : isLeap d.year = true
      · rw [if_pos hleap] at hlt ⊢
        omega
      · rw [if_neg hleap] at hlt ⊢
        omega
  have hday : (d.dayNumber - daysBefore d.year).toNat = d.daysInYear := by
    rw [dayNumber]
    omega
  simp only [ofDayNumber?, hyear, hday]
  rw [daysInYear, monthAndDay_daysInMonths hm hd, of?_eq_some_iff]
  omega

/-- The date found for a day number has this number. -/
theorem dayNumber_of_ofDayNumber? {n : Int} {d : Date} (h : ofDayNumber? n = some d) :
    d.dayNumber = n := by
  have h₁ := daysBefore_yearOf_le n
  have h₂ := lt_daysBefore_yearOf n
  rw [daysBefore_add_one] at h₂
  have hlt : (n - daysBefore (yearOf n)).toNat < daysInMonths (monthLengths (isLeap (yearOf n)))
      (monthLengths (isLeap (yearOf n))).length := by
    rw [length_monthLengths, daysInMonths_monthLengths]
    by_cases hleap : isLeap (yearOf n) = true
    · rw [if_pos hleap] at h₂ ⊢
      omega
    · rw [if_neg hleap] at h₂ ⊢
      omega
  obtain ⟨-, -, hn⟩ := monthAndDay_of_lt hlt
  obtain ⟨hyear, hmonth, hday⟩ := of?_eq_some_iff.1 h
  rw [dayNumber, daysInYear, hyear, hmonth, hday, hn]
  omega

/-- Going to the day number and coming back are inverse. -/
theorem ofDayNumber?_eq_some_iff {n : Int} {d : Date} :
    ofDayNumber? n = some d ↔ d.dayNumber = n :=
  ⟨dayNumber_of_ofDayNumber?, fun h => h ▸ ofDayNumber?_dayNumber d⟩

/-- Dates with one day number are the same. -/
theorem dayNumber_injective {d e : Date} (h : d.dayNumber = e.dayNumber) : d = e := by
  have := ofDayNumber?_dayNumber d
  rw [h, ofDayNumber?_dayNumber] at this
  exact (Option.some.inj this).symm

end Date

end Utterance.Calendar
