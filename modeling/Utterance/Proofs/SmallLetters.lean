import Mathlib.Tactic.Lemma
import Utterance.Text.Lowercase

set_option autoImplicit false

/-!
# Small letters

Lower-casing leaves a text as it is exactly when each of its characters is a small one, and
whatever it makes of a text has small characters only. So a text in lower case stays in lower case,
although a capital sigma is mapped by the text around it and the capital letter I with a dot above
becomes two characters.

That no small letter of the table is a capital letter of it is a fact about the whole table. It is
checked on two numbers, whose binary digits are set at the code points of the letters.

## Main definitions

* `Utterance.Text.letterDigits`: the letters of a table as one number.
* `Utterance.Text.IsSmall`: the characters that lower-casing leaves as they are.

## Main results

* `Utterance.Text.covers_apply_eq_false`: no small letter of the table is a capital letter.
* `Utterance.Text.lowercase_eq_self_iff`: the texts in lower case.
* `Utterance.Text.isSmall_of_mem_lowercase`, `Utterance.Text.lowercase_lowercase`: lower-casing makes
  texts in lower case.
-/

namespace Utterance.Text

/-! ## Letters as binary digits -/

/-- The number with binary digits at `first`, `first + stride` and so on, `size` of them. -/
def digitsAt (first stride : Nat) : (size : Nat) → Nat
  | 0 => 0
  | size + 1 => digitsAt first stride size ||| 1 <<< (first + stride * size)

/-- A single digit is at its place. -/
lemma testBit_one_shiftLeft_self (n : Nat) : (1 <<< n).testBit n = true := by
  rw [Nat.one_shiftLeft, Nat.testBit_two_pow_self]

/-- There is a digit at every place of the stride, up to the size. -/
lemma testBit_digitsAt {first stride size k : Nat} (h : k < size) :
    (digitsAt first stride size).testBit (first + stride * k) = true := by
  induction size with
  | zero => cases h
  | succ size ih =>
    rw [digitsAt, Nat.testBit_or, Bool.or_eq_true]
    obtain h | rfl := Nat.lt_succ_iff_lt_or_eq.1 h
    · exact .inl (ih h)
    · exact .inr (testBit_one_shiftLeft_self _)

namespace CaseRun

/-- The number of capital letters of the run. -/
def size (r : CaseRun) : Nat := (r.last - r.first) / r.stride + 1

/-- The small letters of the run are characters: they lie before the surrogates or behind them. -/
def StaysValid (r : CaseRun) : Prop :=
  (0 ≤ r.first + r.shift ∧ r.last + r.shift < 0xD800) ∨
    (0xDFFF < r.first + r.shift ∧ r.last + r.shift < 0x110000)

instance (r : CaseRun) : Decidable r.StaysValid :=
  inferInstanceAs (Decidable (_ ∨ _))

variable {r : CaseRun} {n : Nat}

/-- A run covers the letters from its first to its last one in its stride. -/
lemma covers_iff :
    r.covers n = true ↔ r.first ≤ n ∧ n ≤ r.last ∧ (n - r.first) % r.stride = 0 := by
  simp [covers, and_assoc]

/-- A capital letter of the run by its place in the run. -/
lemma exists_eq_add_of_covers (h : r.covers n = true) :
    ∃ k < r.size, n = r.first + r.stride * k := by
  obtain ⟨hfirst, hlast, hstride⟩ := covers_iff.1 h
  refine ⟨(n - r.first) / r.stride, ?_, ?_⟩
  · exact Nat.lt_succ_of_le (Nat.div_le_div_right (Nat.sub_le_sub_right hlast _))
  · rw [Nat.mul_div_cancel' (Nat.dvd_of_mod_eq_zero hstride)]
    omega

/-- The small letter of a capital letter is a character. -/
lemma isValidChar_apply (hvalid : r.StaysValid) (h : r.covers n = true) :
    (r.apply n).isValidChar := by
  obtain ⟨hfirst, hlast, -⟩ := covers_iff.1 h
  simp only [StaysValid, Nat.isValidChar, apply] at *
  omega

/-- The small letters of a run lie as far from each other as its capital letters. -/
lemma apply_add (hvalid : r.StaysValid) (n : Nat) :
    r.apply (r.first + n) = r.apply r.first + n := by
  simp only [StaysValid, apply] at *
  omega

end CaseRun

/-- The number with binary digits at the letters of all runs, those of a run counted from `start` on
in the stride of the run. -/
def letterDigits (start : CaseRun → Nat) (runs : List CaseRun) : Nat :=
  runs.foldr (fun r digits => digitsAt (start r) r.stride r.size ||| digits) 0

/-- There is a digit at every letter of every run. -/
lemma testBit_letterDigits {start : CaseRun → Nat} {runs : List CaseRun} {r : CaseRun} {k : Nat}
    (hr : r ∈ runs) (hk : k < r.size) :
    (letterDigits start runs).testBit (start r + r.stride * k) = true := by
  induction runs with
  | nil => cases hr
  | cons s runs ih =>
    rw [letterDigits, List.foldr_cons, Nat.testBit_or, Bool.or_eq_true]
    obtain rfl | hr := List.mem_cons.1 hr
    · exact .inl (testBit_digitsAt hk)
    · exact .inr (ih hr)

/-! ## The table -/

/-- The code points of the small letters. -/
def smallDigits : Nat := letterDigits (fun r => r.apply r.first) lowerRuns

/-- The code points of the capital letters, with the one that becomes two characters. -/
def capitalDigits : Nat := letterDigits CaseRun.first lowerRuns ||| 1 <<< 'İ'.toNat

/-- No letter of the table is both a small and a capital one. -/
lemma smallDigits_land_capitalDigits : smallDigits &&& capitalDigits = 0 := by
  decide +kernel

/-- The small letters of the table are characters. -/
lemma staysValid_of_mem_lowerRuns : ∀ r ∈ lowerRuns, r.StaysValid := by
  decide +kernel

/-- The sigma is a capital letter of the table, although it has a rule of its own. -/
lemma exists_covers_sigma : ∃ r ∈ lowerRuns, r.covers 'Σ'.toNat = true := by
  decide +kernel

section Table

variable {r s : CaseRun} {n : Nat}

/-- A small letter of the table has its digit. -/
lemma testBit_smallDigits (hr : r ∈ lowerRuns) (h : r.covers n = true) :
    smallDigits.testBit (r.apply n) = true := by
  obtain ⟨k, hk, rfl⟩ := CaseRun.exists_eq_add_of_covers h
  rw [CaseRun.apply_add (staysValid_of_mem_lowerRuns r hr)]
  exact testBit_letterDigits hr hk

/-- A capital letter of the table has its digit. -/
lemma testBit_capitalDigits (hs : s ∈ lowerRuns) (h : s.covers n = true) :
    capitalDigits.testBit n = true := by
  obtain ⟨k, hk, rfl⟩ := CaseRun.exists_eq_add_of_covers h
  rw [capitalDigits, Nat.testBit_or, testBit_letterDigits hs hk, Bool.true_or]

/-- What is a small letter is no capital letter. -/
lemma testBit_capitalDigits_apply (hr : r ∈ lowerRuns) (h : r.covers n = true) :
    capitalDigits.testBit (r.apply n) = false := by
  have hland := Nat.testBit_and smallDigits capitalDigits (r.apply n)
  rwa [smallDigits_land_capitalDigits, Nat.zero_testBit, testBit_smallDigits hr h, Bool.true_and,
    eq_comm] at hland

/-- **No small letter of the table is a capital letter of it.** -/
theorem covers_apply_eq_false (hr : r ∈ lowerRuns) (h : r.covers n = true) (hs : s ∈ lowerRuns) :
    s.covers (r.apply n) = false := by
  rw [Bool.eq_false_iff, ne_eq]
  intro hcovers
  have hcapital := testBit_capitalDigits hs hcovers
  rw [testBit_capitalDigits_apply hr h] at hcapital
  cases hcapital

/-- No small letter of the table is the capital letter that becomes two characters. -/
lemma apply_ne_dotted (hr : r ∈ lowerRuns) (h : r.covers n = true) : r.apply n ≠ 'İ'.toNat := by
  intro hdotted
  have hnot := testBit_capitalDigits_apply hr h
  rw [hdotted, capitalDigits, Nat.testBit_or, testBit_one_shiftLeft_self, Bool.or_true] at hnot
  cases hnot

end Table

/-! ## Small characters -/

/-- Lower-casing leaves the character as it is, whatever stands around it. -/
def IsSmall (c : Char) : Prop := ∀ before after, lowerAt before c after = [c]

variable {c d : Char} {before after : List Char}

/-- A character outside the table is small, unless it is the one that becomes two. -/
lemma isSmall_of_not_covers (hdotted : c ≠ 'İ')
    (h : ∀ r ∈ lowerRuns, r.covers c.toNat = false) : IsSmall c := by
  intro before after
  rw [lowerAt, if_neg ?_, if_neg hdotted, lowerChar_of_not_covers h]
  rintro rfl
  obtain ⟨r, hr, hcovers⟩ := exists_covers_sigma
  rw [h r hr] at hcovers
  cases hcovers

/-- The small letter of a capital letter has the code point that the run gives to it. -/
lemma toNat_ofNat_apply {r : CaseRun} {n : Nat} (hr : r ∈ lowerRuns) (h : r.covers n = true) :
    (Char.ofNat (r.apply n)).toNat = r.apply n := by
  rw [Char.ofNat, dif_pos (CaseRun.isValidChar_apply (staysValid_of_mem_lowerRuns r hr) h)]
  rfl

/-- The small letter of a capital letter is small. -/
lemma isSmall_ofNat_apply {r : CaseRun} {n : Nat} (hr : r ∈ lowerRuns) (h : r.covers n = true) :
    IsSmall (Char.ofNat (r.apply n)) := by
  refine isSmall_of_not_covers ?_ fun s hs => ?_
  · intro hdotted
    exact apply_ne_dotted hr h (by rw [← toNat_ofNat_apply hr h, hdotted])
  · rw [toNat_ofNat_apply hr h]
    exact covers_apply_eq_false hr h hs

/-- A mapped character is small, unless it is the one that becomes two. -/
lemma isSmall_lowerChar (hdotted : c ≠ 'İ') : IsSmall (lowerChar c) := by
  unfold lowerChar
  split
  · rename_i r hr
    exact isSmall_ofNat_apply (List.mem_of_find?_eq_some hr) (by simpa using List.find?_some hr)
  · rename_i hnone
    exact isSmall_of_not_covers hdotted (by simpa [List.find?_eq_none] using hnone)

/-- A character becomes a small sigma, one of the two characters that stand for the dotted letter,
or what the table maps it to. -/
lemma mem_lowerAt_cases (h : d ∈ lowerAt before c after) :
    d ∈ ['ς', 'σ', 'i', '\u0307'] ∨ (c ≠ 'İ' ∧ d = lowerChar c) := by
  unfold lowerAt at h
  split at h
  · rw [List.mem_singleton] at h
    split at h <;> simp [h]
  · split at h
    · exact .inl (List.mem_append_right ['ς', 'σ'] h)
    · rename_i hdotted
      exact .inr ⟨hdotted, List.mem_singleton.1 h⟩

/-- Whatever becomes of a character is small. -/
lemma isSmall_of_mem_lowerAt (h : d ∈ lowerAt before c after) : IsSmall d := by
  have hforms : ∀ e ∈ ['ς', 'σ', 'i', '\u0307'],
      e ≠ 'İ' ∧ ∀ r ∈ lowerRuns, r.covers e.toNat = false := by
    simp only [List.mem_cons, List.not_mem_nil, or_false, forall_eq_or_imp, forall_eq]
    decide +kernel
  obtain hform | ⟨hdotted, rfl⟩ := mem_lowerAt_cases h
  · exact isSmall_of_not_covers (hforms d hform).1 (hforms d hform).2
  · exact isSmall_lowerChar hdotted

/-! ## Texts in lower case -/

/-- Whatever becomes of a text has small characters only. -/
lemma isSmall_of_mem_lowerFrom {cs : List Char} (h : d ∈ lowerFrom before cs) : IsSmall d := by
  induction cs generalizing before with
  | nil => cases h
  | cons c cs ih =>
    rw [lowerFrom, List.mem_append] at h
    exact h.elim isSmall_of_mem_lowerAt ih

/-- A text stays as it is exactly when each of its characters is small. -/
lemma lowerFrom_eq_self_iff (before : List Char) {cs : List Char} :
    lowerFrom before cs = cs ↔ ∀ c ∈ cs, IsSmall c := by
  constructor
  · intro h c hc
    rw [← h] at hc
    exact isSmall_of_mem_lowerFrom hc
  · intro h
    induction cs generalizing before with
    | nil => rfl
    | cons c cs ih =>
      rw [List.forall_mem_cons] at h
      rw [lowerFrom, h.1 before cs, ih (c :: before) h.2]
      rfl

/-- A text is in lower case exactly when each of its characters is small. -/
theorem lowercase_eq_self_iff {s : String} : lowercase s = s ↔ ∀ c ∈ s.toList, IsSmall c := by
  rw [← lowerFrom_eq_self_iff [], ← String.toList_inj, lowercase, String.toList_ofList]

/-- Lower-casing leaves small characters only. -/
theorem isSmall_of_mem_lowercase {s : String} (h : c ∈ (lowercase s).toList) : IsSmall c := by
  rw [lowercase, String.toList_ofList] at h
  exact isSmall_of_mem_lowerFrom h

/-- **A text in lower case stays as it is.** -/
theorem lowercase_lowercase (s : String) : lowercase (lowercase s) = lowercase s :=
  lowercase_eq_self_iff.2 fun _ => isSmall_of_mem_lowercase

end Utterance.Text
