set_option autoImplicit false

/-!
# Decimal digits

## Main definitions

* `Utterance.Text.decimal`: a number written with a given count of digits.
* `Utterance.Text.numeral`: the number that digits stand for.

## Main results

* `Utterance.Text.isDigit_of_mem_decimal`: a written number holds digits only.
* `Utterance.Text.numeral_append_singleton`: a further digit makes ten times the number and adds its
  value.
-/

namespace Utterance.Text

/-- The last decimal digit of `n`. -/
def lastDigit (n : Nat) : Char := Char.ofNat ('0'.toNat + n % 10)

/-- The value of a digit. -/
def digitValue (c : Char) : Nat := c.toNat - '0'.toNat

/-- The last `width` decimal digits of `n`, with leading zeros. -/
def decimal : (width n : Nat) → List Char
  | 0, _ => []
  | width + 1, n => decimal width (n / 10) ++ [lastDigit n]

/-- The number that the digits `ds` stand for. -/
def numeral (ds : List Char) : Nat := ds.foldl (fun n c => 10 * n + digitValue c) 0

/-- The last digit of a number is a digit. -/
theorem isDigit_lastDigit (n : Nat) : (lastDigit n).isDigit = true := by
  have : ∀ i < 10, (Char.ofNat ('0'.toNat + i)).isDigit = true := by decide
  exact this _ (Nat.mod_lt _ (by decide))

/-- The last digit of a number is what is left of it after tens. -/
theorem digitValue_lastDigit (n : Nat) : digitValue (lastDigit n) = n % 10 := by
  have : ∀ i < 10, digitValue (Char.ofNat ('0'.toNat + i)) = i := by decide
  exact this _ (Nat.mod_lt _ (by decide))

/-- A number is written with as many digits as are asked for. -/
@[simp] theorem length_decimal (width n : Nat) : (decimal width n).length = width := by
  induction width generalizing n with
  | zero => rfl
  | succ width ih => simp [decimal, ih]

/-- A number is written with digits only. -/
theorem isDigit_of_mem_decimal {width n : Nat} {c : Char} (h : c ∈ decimal width n) :
    c.isDigit = true := by
  induction width generalizing n with
  | zero => simp [decimal] at h
  | succ width ih =>
    rcases List.mem_append.1 h with h | h
    · exact ih h
    · rw [List.mem_singleton.1 h]
      exact isDigit_lastDigit n

/-- One more digit multiplies a number by ten and adds its value. -/
theorem numeral_append_singleton (ds : List Char) (c : Char) :
    numeral (ds ++ [c]) = 10 * numeral ds + digitValue c := by
  simp [numeral]

end Utterance.Text
