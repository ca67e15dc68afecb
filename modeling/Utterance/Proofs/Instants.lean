import Utterance.Calendar.Timestamp
import Utterance.Proofs.CalendarRoom

set_option autoImplicit false

/-!
# Instants

On a line of days of 86400 seconds every timestamp has an instant, the nanoseconds from the
beginning of the year 1. A timestamp that lies in no leap second is known from its instant. Adding
to a timestamp adds to its instant and leads out of a leap second; it fails when the calendar ends
before, and for no other reason, so adding one part after the other fails exactly when adding all of
them at once does.

## Main definitions

* `Utterance.Calendar.Timestamp.instant`: the instant of a timestamp.
* `Utterance.Calendar.Timestamp.ofInstant?`: the timestamp of an instant, in no leap second.
* `Utterance.Calendar.Timestamp.add?`: the timestamp a number of nanoseconds later.

## Main results

* `Utterance.Calendar.Timestamp.ofInstant?_eq_some_iff`: a timestamp in no leap second is that of
  its instant.
* `Utterance.Calendar.Timestamp.ofInstant?_eq_none_iff`: the instants behind the calendar.
* `Utterance.Calendar.Timestamp.foldlM_add?`: adding part after part.
-/

namespace Utterance.Calendar

/-! ## Times of day -/

namespace TimeOfDay

/-- Only a leap second reaches over the end of a day. -/
lemma nanoseconds_lt {t : TimeOfDay} (h : t.isLeapSecond = false) :
    t.nanoseconds < nanosPerDay := by
  obtain ⟨hhour, hminute, hsecond, -, -⟩ := t.valid
  rw [isLeapSecond, decide_eq_false_iff_not] at h
  simp only [nanoseconds, nanosPerDay, nanosPerSecond] at *
  omega

/-- A time in no leap second is found again from its nanoseconds. -/
lemma ofNanoseconds_eq {t : TimeOfDay} {n : ℕ} (h : n < nanosPerDay)
    (ht : t.isLeapSecond = false) (hn : n = t.nanoseconds) : ofNanoseconds n h = t := by
  subst hn
  obtain ⟨hhour, hminute, hsecond, -, -⟩ := t.valid
  rw [isLeapSecond, decide_eq_false_iff_not] at ht
  ext <;> simp only [ofNanoseconds, nanoseconds, nanosPerSecond] at * <;> omega

end TimeOfDay

/-- The midnight at which a date begins. -/
def Date.midnight (d : Date) : Timestamp := ⟨d, .ofNanoseconds 0 (by decide)⟩

namespace Timestamp

variable {s : Timestamp} {n : ℤ}

/-! ## Instants -/

/-- The instant of a timestamp: the nanoseconds from the beginning of the year 1, on a line of days
of 86400 seconds. -/
def instant (s : Timestamp) : ℤ := s.date.dayNumber * nanosPerDay + s.time.nanoseconds

/-- Midnight is a whole number of days from the beginning of the count. -/
lemma instant_midnight (d : Date) : d.midnight.instant = d.dayNumber * nanosPerDay := by
  rw [instant, Date.midnight, TimeOfDay.nanoseconds_ofNanoseconds, Nat.cast_zero, add_zero]

/-- Midnight is in no leap second. -/
@[simp] lemma isLeapSecond_midnight (d : Date) : d.midnight.time.isLeapSecond = false :=
  TimeOfDay.isLeapSecond_ofNanoseconds 0 (by decide)

/-- The day of an instant in no leap second is that of the timestamp. -/
lemma instant_ediv (hs : s.time.isLeapSecond = false) :
    s.instant / nanosPerDay = s.date.dayNumber := by
  have hlt := TimeOfDay.nanoseconds_lt hs
  simp only [instant, nanosPerDay, nanosPerSecond] at *
  omega

/-- What is left of an instant after whole days is the time of day. -/
lemma instant_emod (hs : s.time.isLeapSecond = false) :
    s.instant % nanosPerDay = s.time.nanoseconds := by
  have hlt := TimeOfDay.nanoseconds_lt hs
  simp only [instant, nanosPerDay, nanosPerSecond] at *
  omega

/-- The nanoseconds from midnight to an instant are those of a day. -/
lemma toNat_emod_lt (n : ℤ) : (n % nanosPerDay).toNat < nanosPerDay := by
  simp only [nanosPerDay, nanosPerSecond]
  omega

/-- The timestamp of an instant, in no leap second, if its day is in the calendar. -/
def ofInstant? (n : ℤ) : Option Timestamp :=
  (Date.ofDayNumber? (n / nanosPerDay)).map fun date =>
    ⟨date, .ofNanoseconds (n % nanosPerDay).toNat (toNat_emod_lt n)⟩

/-- **Timestamps and instants.** A timestamp is that of an instant exactly when the instant is its
own and it lies in no leap second. -/
theorem ofInstant?_eq_some_iff :
    ofInstant? n = some s ↔ s.instant = n ∧ s.time.isLeapSecond = false := by
  rw [ofInstant?, Option.map_eq_some_iff]
  constructor
  · rintro ⟨date, hdate, rfl⟩
    refine ⟨?_, TimeOfDay.isLeapSecond_ofNanoseconds _ (toNat_emod_lt n)⟩
    rw [instant, Date.dayNumber_of_ofDayNumber? hdate, TimeOfDay.nanoseconds_ofNanoseconds]
    simp only [nanosPerDay, nanosPerSecond]
    omega
  · rintro ⟨rfl, hs⟩
    refine ⟨s.date, ?_, Timestamp.ext rfl ?_⟩
    · rw [instant_ediv hs, Date.ofDayNumber?_dayNumber]
    · refine TimeOfDay.ofNanoseconds_eq (toNat_emod_lt _) hs ?_
      rw [instant_emod hs, Int.toNat_natCast]

/-- A time outside of leap seconds is found again from its instant. -/
lemma ofInstant?_instant (hs : s.time.isLeapSecond = false) : ofInstant? s.instant = some s :=
  ofInstant?_eq_some_iff.2 ⟨rfl, hs⟩

/-- The calendar begins before every timestamp. -/
lemma daysBefore_firstYear_le (s : Timestamp) :
    daysBefore firstYear ≤ s.instant / nanosPerDay := by
  have hday := Date.daysBefore_firstYear_le s.date
  simp only [instant, nanosPerDay, nanosPerSecond] at *
  omega

/-- Later days have later numbers. -/
lemma ediv_nanosPerDay_le_add (n : ℤ) (m : ℕ) : n / nanosPerDay ≤ (n + m) / nanosPerDay :=
  Int.ediv_le_ediv (by decide) (by omega)

/-- The calendar begins before every instant that comes after a timestamp. -/
lemma daysBefore_firstYear_le_add (s : Timestamp) (m : ℕ) :
    daysBefore firstYear ≤ (s.instant + m) / nanosPerDay :=
  (daysBefore_firstYear_le s).trans (ediv_nanosPerDay_le_add s.instant m)

/-- From the beginning of the calendar on an instant has no timestamp only when the calendar ends
before its day. -/
theorem ofInstant?_eq_none_iff (hn : daysBefore firstYear ≤ n / nanosPerDay) :
    ofInstant? n = none ↔ Date.last.dayNumber < n / nanosPerDay := by
  rw [ofInstant?, Option.map_eq_none_iff]
  constructor
  · intro h
    by_contra hle
    obtain ⟨date, hdate⟩ := Date.exists_dayNumber_eq hn (Int.not_lt.1 hle)
    rw [← hdate, Date.ofDayNumber?_dayNumber] at h
    cases h
  · intro hlt
    rw [Option.eq_none_iff_forall_ne_some]
    intro date hdate
    have hle := Date.dayNumber_le_last date
    rw [Date.dayNumber_of_ofDayNumber? hdate] at hle
    omega

/-! ## Adding to a timestamp -/

/-- The nanoseconds from midnight at which counting on from a time starts. Counting leaves a leap
second behind, so the second that it repeats does not count. -/
def countingStart (t : TimeOfDay) : ℕ :=
  if t.isLeapSecond then t.nanoseconds - nanosPerSecond else t.nanoseconds

/-- A leap second goes on as long as its nanoseconds do. -/
lemma valid_add {t : TimeOfDay} {n : ℕ} (ht : t.isLeapSecond = true)
    (hn : t.nanosecond + n < 2 * nanosPerSecond) :
    TimeOfDay.Valid t.hour t.minute t.second (t.nanosecond + n) := by
  obtain ⟨hhour, hminute, hsecond, -, hleap⟩ := t.valid
  exact ⟨hhour, hminute, hsecond, hn, fun _ => hleap (of_decide_eq_true ht)⟩

/-- The timestamp `n` nanoseconds after `s`, if the calendar does not end before. A leap second is
not left while it lasts. -/
def add? (s : Timestamp) (n : ℕ) : Option Timestamp :=
  if h : s.time.isLeapSecond = true ∧ s.time.nanosecond + n < 2 * nanosPerSecond then
    some ⟨s.date, ⟨s.time.hour, s.time.minute, s.time.second, s.time.nanosecond + n,
      valid_add h.1 h.2⟩⟩
  else
    (s.date.addDays? ((countingStart s.time + n) / nanosPerDay)).map fun date =>
      ⟨date, .ofNanoseconds ((countingStart s.time + n) % nanosPerDay)
        (Nat.mod_lt _ (by decide))⟩

/-- **One addition.** From a time in no leap second, adding leads to the instant that is later by
what has been added. -/
theorem add?_eq_ofInstant? (hs : s.time.isLeapSecond = false) (n : ℕ) :
    s.add? n = ofInstant? (s.instant + n) := by
  have hstart : countingStart s.time = s.time.nanoseconds := by
    rw [countingStart, hs, if_neg Bool.false_ne_true]
  have hday : s.date.dayNumber + ((s.time.nanoseconds + n) / nanosPerDay : ℕ) =
      (s.instant + n) / nanosPerDay := by
    simp only [instant, nanosPerDay, nanosPerSecond]
    omega
  have htime : (s.time.nanoseconds + n) % nanosPerDay = ((s.instant + n) % nanosPerDay).toNat := by
    simp only [instant, nanosPerDay, nanosPerSecond]
    omega
  rw [add?, dif_neg (by simp [hs])]
  simp only [hstart, Date.addDays?, hday, htime]
  rfl

/-- What has been reached by adding lies in no leap second, at the instant meant. -/
lemma instant_of_add? {r : Timestamp} (hs : s.time.isLeapSecond = false) {n : ℕ}
    (h : s.add? n = some r) : r.instant = s.instant + n ∧ r.time.isLeapSecond = false := by
  rw [add?_eq_ofInstant? hs] at h
  exact ofInstant?_eq_some_iff.1 h

/-- Behind the end of the calendar nothing is reached any more. -/
lemma ofInstant?_add_eq_none {m : ℕ} (hn : daysBefore firstYear ≤ n / nanosPerDay)
    (h : ofInstant? n = none) : ofInstant? (n + m) = none := by
  have hlt := (ofInstant?_eq_none_iff hn).1 h
  have hle := ediv_nanosPerDay_le_add n m
  rw [ofInstant?_eq_none_iff (hn.trans hle)]
  omega

/-- **Adding part after part** leads to the instant that is later by the sum of the parts, and fails
exactly when the calendar ends before that instant.

**Proof sketch.** Induction on the parts. A sum on the way that is in the calendar lies in no leap
second again, so the next part is added to its instant. If a sum on the way is not in the calendar,
the calendar has ended before it, and then also before the whole sum. -/
theorem foldlM_add? (hs : s.time.isLeapSecond = false) (parts : List ℕ) :
    parts.foldlM add? s = ofInstant? (s.instant + (parts.sum : ℕ)) := by
  induction parts generalizing s with
  | nil =>
    rw [List.foldlM_nil, List.sum_nil, Nat.cast_zero, add_zero, ofInstant?_instant hs]
    rfl
  | cons part parts ih =>
    rw [List.foldlM_cons, List.sum_cons, Nat.cast_add, ← add_assoc]
    cases hpart : s.add? part with
    | none =>
      rw [add?_eq_ofInstant? hs] at hpart
      rw [ofInstant?_add_eq_none (daysBefore_firstYear_le_add s part) hpart]
      rfl
    | some r =>
      obtain ⟨hinstant, hr⟩ := instant_of_add? hs hpart
      rw [← hinstant, ← ih hr]
      rfl

end Timestamp

end Utterance.Calendar
