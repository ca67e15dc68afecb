set_option autoImplicit false

/-!
# Sets of code points

A property of characters is a list of closed intervals of code points, and a character has the
property when its code point lies in one of them.

## Main definitions

* `Utterance.Text.CodePoints`: a set of characters.
* `Utterance.Text.CodePoints.has`: membership.

## Main results

* `Utterance.Text.CodePoints.has_iff`: membership in terms of the intervals.
-/

namespace Utterance.Text

/-- A set of characters, given by closed intervals of code points. -/
abbrev CodePoints := List (Nat × Nat)

namespace CodePoints

/-- Whether the code point of `c` lies in one of the intervals. -/
def has (s : CodePoints) (c : Char) : Bool :=
  s.any fun i => i.1 ≤ c.toNat && c.toNat ≤ i.2

/-- A character is in the set when it lies in one of the ranges. -/
theorem has_iff {s : CodePoints} {c : Char} :
    s.has c = true ↔ ∃ i ∈ s, i.1 ≤ c.toNat ∧ c.toNat ≤ i.2 := by
  simp [has]

/-- No character is in the empty set. -/
@[simp] theorem has_nil (c : Char) : has [] c = false := rfl

end CodePoints

end Utterance.Text
