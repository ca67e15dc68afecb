import Mathlib.Data.List.TakeWhile
import Utterance.Calendar.Timestamp.Reading
import Utterance.Calendar.Timestamp.Text
import Utterance.Text.Digits.Lemmas

set_option autoImplicit false

/-!
# Written timestamps read back

Reading is more lenient than writing, and what is written is read: each field that reading looks for
is the one that was written, and no field takes up characters of the next one. A year of four digits
ends after the fourth, a longer one has a sign and ends at the mark after it, and all other fields
have as many digits as reading takes.

## Main results

* `Utterance.Calendar.Reading.number_append`: the digits in front of a text are the number read.
* `Utterance.Calendar.Timestamp.ofText_text`: a written timestamp reads back.
* `Utterance.Calendar.Timestamp.text_injective`: timestamps with one written form are the same.
-/

namespace Utterance.Calendar

open Utterance.Text

/-! ## Digits -/

/-- A digit is no blank. -/
lemma isBlank_eq_false_of_isDigit {c : Char} (h : c.isDigit = true) : isBlank c = false := by
  obtain ⟨hzero, hnine⟩ : 48 ≤ c.toNat ∧ c.toNat ≤ 57 := Char.isDigit_iff_toNat.1 h
  simp only [isBlank, blanks, CodePoints.has, List.any_cons, List.any_nil, Bool.or_false,
    Bool.or_eq_false_iff, Bool.and_eq_false_iff, decide_eq_false_iff_not]
  omega

/-- Zeros behind digits multiply the number by ten each. -/
lemma numeral_append_replicate (ds : List Char) (count : ℕ) :
    numeral (ds ++ List.replicate count '0') = numeral ds * 10 ^ count := by
  induction count with
  | zero => simp
  | succ count ih =>
    have hzero : digitValue '0' = 0 := rfl
    rw [List.replicate_succ', ← List.append_assoc, numeral_append_singleton, ih, hzero, pow_succ,
      Nat.add_zero, Nat.mul_comm 10, Nat.mul_assoc]

/-! ## Years and months -/

/-- A year of the calendar has six digits at most, and as many as it needs. -/
lemma natAbs_lt_pow_yearWidth {y : ℤ} (hfirst : firstYear ≤ y) (hlast : y ≤ lastYear) :
    y.natAbs < 10 ^ yearWidth y.natAbs := by
  simp only [firstYear, lastYear] at hfirst hlast
  unfold yearWidth
  split
  · assumption
  · split
    · assumption
    · omega

/-- A year has a digit at least. -/
lemma yearWidth_pos (n : ℕ) : 0 < yearWidth n := by
  unfold yearWidth
  split
  · decide
  · split <;> decide

/-- No month has more than 31 days. -/
lemma monthLength_le (year : ℤ) (month : ℕ) : monthLength year month ≤ 31 := by
  have hlengths : ∀ leap, ∀ length ∈ monthLengths leap, length ≤ 31 := by decide
  rw [monthLength, List.getD_eq_getElem?_getD]
  cases hlength : (monthLengths (isLeap year))[month - 1]? with
  | none => simp
  | some length => exact hlengths _ length (List.mem_of_getElem? hlength)

namespace Reading

variable {ds rest : List Char} {n limit width : ℕ}

/-- **The digits in front of a text** are the number read, if they are as many as are taken or no
digit follows them. -/
theorem number_append (hne : ds ≠ []) (hdigit : ∀ c ∈ ds, c.isDigit = true)
    (hle : ds.length ≤ limit)
    (hend : ds.length = limit ∨ ∀ c ∈ rest.head?, c.isDigit = false) :
    number limit (ds ++ rest) = .ok (numeral ds, rest) := by
  have hrest : (rest.take (limit - ds.length)).takeWhile Char.isDigit = [] := by
    obtain hlimit | hend := hend
    · simp [hlimit]
    · cases rest with
      | nil => simp
      | cons c rest =>
        cases limit - ds.length with
        | zero => simp
        | succ count => simp [hend c rfl]
  have htake : ((ds ++ rest).take limit).takeWhile Char.isDigit = ds := by
    rw [List.take_append, List.take_of_length_le hle, List.takeWhile_append_of_pos hdigit, hrest,
      List.append_nil]
  obtain ⟨c, tail, rfl⟩ := List.exists_cons_of_ne_nil hne
  have hc := hdigit c List.mem_cons_self
  simp only [List.cons_append] at htake ⊢
  simp only [number, hc, if_true, htake]
  simp

/-- A written number begins with a digit. -/
lemma exists_digit_cons_decimal (hpos : 0 < width) (n : ℕ) :
    ∃ c tail, decimal width n = c :: tail ∧ c.isDigit = true := by
  obtain ⟨c, tail, hcons⟩ := List.exists_cons_of_length_pos
    (hpos.trans_eq (length_decimal width n).symm)
  exact ⟨c, tail, hcons, isDigit_of_mem_decimal (hcons ▸ List.mem_cons_self)⟩

/-- A written number is read back, if it has as many digits as are taken or no digit follows it. -/
lemma number_decimal_append (hpos : 0 < width) (hlt : n < 10 ^ width) (hle : width ≤ limit)
    (hend : width = limit ∨ ∀ c ∈ rest.head?, c.isDigit = false) :
    number limit (decimal width n ++ rest) = .ok (n, rest) := by
  obtain ⟨c, tail, hcons, -⟩ := exists_digit_cons_decimal hpos n
  have hne : decimal width n ≠ [] := by simp [hcons]
  rw [← length_decimal width n] at hle hend
  rw [number_append hne (fun c hc => isDigit_of_mem_decimal hc) hle hend,
    numeral_decimal_of_lt hlt]

/-- No blank stands in front of a written number. -/
lemma dropWhile_isBlank_decimal (hpos : 0 < width) :
    (decimal width n ++ rest).dropWhile isBlank = decimal width n ++ rest := by
  obtain ⟨c, tail, hcons, hc⟩ := exists_digit_cons_decimal hpos n
  rw [hcons, List.cons_append, List.dropWhile_cons, isBlank_eq_false_of_isDigit hc]
  rfl

/-! ## Fields -/

/-- A mark is read where it stands. -/
lemma mark_cons {m : Char} (hm : isBlank m = false) : mark m (m :: rest) = .ok rest := by
  simp [mark, hm]

/-- A number of two digits within its bounds is read as it was written. -/
lemma field_decimal {low high : ℕ} (hlow : low ≤ n) (hhigh : n ≤ high) (hlt : high < 100) :
    field low high (decimal 2 n ++ rest) = .ok (n, rest) := by
  have hn : n < 10 ^ 2 := by omega
  simp only [field, dropWhile_isBlank_decimal (show 0 < 2 by decide),
    number_decimal_append (show 0 < 2 by decide) hn le_rfl (.inl rfl), bind, Except.bind]
  rw [if_pos ⟨hlow, hhigh⟩]

/-- **Years** are read with their sign, whatever its use. -/
theorem year_yearText {y : ℤ} (hfirst : firstYear ≤ y) (hlast : y ≤ lastYear) {c : Char}
    (hc : c.isDigit = false) : year (yearText y ++ c :: rest) = .ok (y, c :: rest) := by
  have hwidth := natAbs_lt_pow_yearWidth hfirst hlast
  have hfield : inYearField y = true := by
    simp only [firstYear, lastYear] at hfirst hlast
    simp only [inYearField, Bool.and_eq_true, decide_eq_true_eq]
    omega
  have hend : ∀ d ∈ (c :: rest).head?, d.isDigit = false := by simpa using hc
  have hsigned : number (decimal (yearWidth y.natAbs) y.natAbs ++ c :: rest).length
      (decimal (yearWidth y.natAbs) y.natAbs ++ c :: rest) = .ok (y.natAbs, c :: rest) :=
    number_decimal_append (yearWidth_pos _) hwidth (by simp) (.inr hend)
  unfold yearText
  simp only
  split
  · rename_i hneg
    have hvalue : -(y.natAbs : ℤ) = y := by omega
    have hsign : isBlank '-' = false := by decide
    simp only [year, List.cons_append, List.dropWhile_cons, hsign, Bool.false_eq_true, if_false,
      hsigned, bind, Except.bind, pure, Except.pure, hvalue, hfield, if_true]
  · rename_i hnonneg
    have hvalue : (y.natAbs : ℤ) = y := by omega
    split
    · have hfour : yearWidth y.natAbs = 4 := if_pos (by omega)
      rw [hfour] at hwidth ⊢
      have hread : number 4 (decimal 4 y.natAbs ++ c :: rest) = .ok (y.natAbs, c :: rest) :=
        number_decimal_append (by decide) hwidth le_rfl (.inl rfl)
      rw [year, dropWhile_isBlank_decimal (by decide)]
      -- the first character is a digit, so it is no sign
      obtain ⟨d, tail, hcons, hd⟩ := exists_digit_cons_decimal (by decide : 0 < 4) y.natAbs
      rw [hcons, List.cons_append] at hread ⊢
      split
      · rename_i hsign
        cases hsign
        exact absurd hd (by decide)
      · rename_i hsign
        cases hsign
        exact absurd hd (by decide)
      · simp only [hread, bind, Except.bind, pure, Except.pure, hvalue, hfield, if_true]
    · have hsign : isBlank '+' = false := by decide
      simp only [year, List.cons_append, List.dropWhile_cons, hsign, Bool.false_eq_true, if_false,
        hsigned, bind, Except.bind, pure, Except.pure, hvalue, hfield, if_true]

/-! ## Fractions -/

/-- Digits of a fraction stand for nanoseconds, as if zeros followed them. -/
lemma nanoseconds_decimal (hwidth : width ≤ 9) (hlt : n < 10 ^ width) :
    nanoseconds (decimal width n) = n * 10 ^ (9 - width) := by
  have hlength := length_decimal width n
  rw [nanoseconds, List.take_append, List.take_of_length_le (hlength.trans_le hwidth), hlength,
    List.take_replicate, Nat.min_eq_left (Nat.sub_le 9 width), numeral_append_replicate,
    numeral_decimal_of_lt hlt]

/-- A written fraction is read to its end. -/
lemma fraction_decimal (hpos : 0 < width) (hwidth : width ≤ 9) (hlt : n < 10 ^ width) :
    fraction ('.' :: decimal width n) = .ok (n * 10 ^ (9 - width), []) := by
  have hdigit : ∀ c ∈ decimal width n, c.isDigit = true := fun c hc => isDigit_of_mem_decimal hc
  have hnumber : number 9 (decimal width n) = .ok (n, []) := by
    rw [← List.append_nil (decimal width n)]
    exact number_decimal_append hpos hlt hwidth (.inr (by simp))
  have htake : (decimal width n).takeWhile Char.isDigit = decimal width n :=
    List.takeWhile_eq_self_iff.2 hdigit
  have hdrop : (decimal width n).dropWhile Char.isDigit = [] := List.dropWhile_eq_nil_iff.2 hdigit
  simp only [fraction, hnumber, bind, Except.bind, htake, hdrop, nanoseconds_decimal hwidth hlt]

/-- **Fractions** are read in whatever number of digits they are written. -/
theorem fraction_fractionText (hlt : n < nanosPerSecond) :
    fraction (fractionText n) = .ok (n, []) := by
  rw [nanosPerSecond] at hlt
  unfold fractionText
  split
  · subst n
    rfl
  · split
    · have hvalue : n / 1000000 * 10 ^ (9 - 3) = n := by omega
      rw [fraction_decimal (by decide) (by decide) (by omega), hvalue]
    · split
      · have hvalue : n / 1000 * 10 ^ (9 - 6) = n := by omega
        rw [fraction_decimal (by decide) (by decide) (by omega), hvalue]
      · have hvalue : n * 10 ^ (9 - 9) = n := by omega
        rw [fraction_decimal (by decide) (by decide) (by omega), hvalue]

/-! ## Timestamps -/

/-- The second of a written time, 60 in a leap second, gives the time back. -/
lemma timeOfDay?_written (t : TimeOfDay) :
    timeOfDay? t.hour t.minute (if t.isLeapSecond then t.second + 1 else t.second)
      (t.nanosecond % nanosPerSecond) = some t := by
  obtain ⟨-, -, hsecond, hnano, hleap⟩ := t.valid
  unfold timeOfDay?
  by_cases h : t.isLeapSecond = true
  · have hle : nanosPerSecond ≤ t.nanosecond := of_decide_eq_true h
    have hlast := hleap hle
    have hparts : nanosPerSecond + t.nanosecond % nanosPerSecond = t.nanosecond := by
      rw [nanosPerSecond] at hle hnano ⊢
      omega
    rw [if_pos h, hlast, if_pos rfl, hparts, ← hlast]
    exact TimeOfDay.of?_self t
  · have hlt : t.nanosecond < nanosPerSecond := by simpa [TimeOfDay.isLeapSecond] using h
    rw [if_neg h, if_neg (by omega), Nat.mod_eq_of_lt hlt]
    exact TimeOfDay.of?_self t

/-- A written timestamp is read field by field. -/
theorem timestamp_chars (t : Timestamp) : timestamp t.chars = .ok t := by
  obtain ⟨⟨hfirst, hlast⟩, ⟨hmonth₁, hmonth₂⟩, hday₁, hday₂⟩ := t.date.valid
  obtain ⟨hhour, hminute, hsecond, -, -⟩ := t.time.valid
  have hyear (rest : List Char) :
      year (yearText t.date.year ++ '-' :: rest) = .ok (t.date.year, '-' :: rest) :=
    year_yearText hfirst hlast (by decide)
  have hmonth (rest : List Char) :
      field 1 12 (decimal 2 t.date.month ++ rest) = .ok (t.date.month, rest) :=
    field_decimal hmonth₁ hmonth₂ (by decide)
  have hday (rest : List Char) :
      field 1 31 (decimal 2 t.date.day ++ rest) = .ok (t.date.day, rest) :=
    field_decimal hday₁ (hday₂.trans (monthLength_le _ _)) (by decide)
  have hhour (rest : List Char) :
      field 0 23 (decimal 2 t.time.hour ++ rest) = .ok (t.time.hour, rest) :=
    field_decimal (Nat.zero_le _) (by omega) (by decide)
  have hminute (rest : List Char) :
      field 0 59 (decimal 2 t.time.minute ++ rest) = .ok (t.time.minute, rest) :=
    field_decimal (Nat.zero_le _) (by omega) (by decide)
  have hsecond (rest : List Char) : field 0 60
      (decimal 2 (if t.time.isLeapSecond then t.time.second + 1 else t.time.second) ++ rest) =
        .ok (if t.time.isLeapSecond then t.time.second + 1 else t.time.second, rest) :=
    field_decimal (Nat.zero_le _) (by split <;> omega) (by decide)
  have hfraction : fraction (fractionText (t.time.nanosecond % nanosPerSecond)) =
      .ok (t.time.nanosecond % nanosPerSecond, []) :=
    fraction_fractionText (Nat.mod_lt _ (by decide))
  have hdash (rest : List Char) : mark '-' ('-' :: rest) = .ok rest := mark_cons (by decide)
  have hcolon (rest : List Char) : mark ':' (':' :: rest) = .ok rest := mark_cons (by decide)
  have hletter (rest : List Char) : mark 'T' ('T' :: rest) = .ok rest := mark_cons (by decide)
  simp only [Timestamp.chars, Date.chars, TimeOfDay.chars, List.append_assoc, List.cons_append]
  simp only [timestamp, bind, Except.bind, hyear, hdash, hmonth, hday, hletter, hhour, hcolon,
    hminute, hsecond, hfraction, timeOfDay?_written, Date.of?_self, List.dropWhile_nil, ne_eq,
    not_true_eq_false, if_false, pure, Except.pure]

end Reading

namespace Timestamp

/-- **A written timestamp reads back** as the timestamp. -/
theorem ofText_text (t : Timestamp) : ofText t.text = .ok t := by
  rw [ofText, text, String.toList_ofList]
  exact Reading.timestamp_chars t

/-- No two timestamps have the same written form. -/
theorem text_injective {t t' : Timestamp} (h : t.text = t'.text) : t = t' := by
  have heq := ofText_text t
  rw [h, ofText_text t', Except.ok.injEq] at heq
  exact heq.symm

end Timestamp

end Utterance.Calendar
