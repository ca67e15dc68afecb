import Mathlib.Algebra.Order.Ring.Nat
import Utterance.Text.Digits

set_option autoImplicit false

/-!
# Reading written numbers

## Main results

* `Utterance.Text.numeral_decimal`: digits read back as the number, as far as they reach.
* `Utterance.Text.numeral_decimal_of_lt`: with digits enough, they read back as the number.
-/

namespace Utterance.Text

/-- A written number is read back as far as its digits reach. -/
theorem numeral_decimal (width n : ℕ) : numeral (decimal width n) = n % 10 ^ width := by
  induction width generalizing n with
  | zero => simp [decimal, numeral, Nat.mod_one]
  | succ width ih =>
    rw [decimal, numeral_append_singleton, ih, digitValue_lastDigit, pow_succ,
      Nat.mul_comm (10 ^ width) 10, Nat.mod_mul, Nat.add_comm]

/-- **A number that fits its digits** is read as it was written. -/
theorem numeral_decimal_of_lt {width n : ℕ} (h : n < 10 ^ width) :
    numeral (decimal width n) = n := by
  rw [numeral_decimal, Nat.mod_eq_of_lt h]

end Utterance.Text
