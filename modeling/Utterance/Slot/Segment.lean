import Utterance.Slot

set_option autoImplicit false

/-!
# Segments

The words at the front of a sentence that one slot takes. A run of words grows by one word at a
time while the slot may take it; of the complete runs met on the way the longest is taken. So
`tomorrow at 5pm` is taken whole although `tomorrow` is complete before.

## Main definitions

* `Utterance.Slot.grow?`: the longest complete run on the way.
* `Utterance.Slot.segment?`: the words a slot takes, and the words it leaves.

## Main results

* `Utterance.Slot.append_of_segment?`: the words taken and the words left are the words given.
-/

namespace Utterance.Slot

/-- The longest complete run that begins with `run`, is longer than `run`, and is met before the
slot rejects one; together with the words left after it. -/
def grow? (slot : Slot) (run : List String) : List String → Option (List String × List String)
  | [] => none
  | word :: rest =>
    match slot.status (run ++ [word]) with
    | .rejected => none
    | .begun => slot.grow? (run ++ [word]) rest
    | .complete => (slot.grow? (run ++ [word]) rest).or (some (run ++ [word], rest))

/-- The words a slot takes at the front of `words`, and the words it leaves. A greedy slot takes
them all. -/
def segment? (slot : Slot) (words : List String) : Option (List String × List String) :=
  if slot.isGreedy then some (words, []) else slot.grow? [] words

/-- Growing a run moves words from what is left to what is taken and loses none. -/
theorem append_of_grow? {slot : Slot} {run words taken left : List String}
    (h : slot.grow? run words = some (taken, left)) : taken ++ left = run ++ words := by
  induction words generalizing run with
  | nil => simp [grow?] at h
  | cons word rest ih =>
    simp only [grow?] at h
    split at h
    · simp at h
    · simpa using ih h
    · rcases Option.or_eq_some_iff.1 h with h | ⟨-, h⟩
      · simpa using ih h
      · simp only [Option.some.injEq, Prod.mk.injEq] at h
        simp [← h.1, ← h.2]

/-- The words taken and the words left are the words. -/
theorem append_of_segment? {slot : Slot} {words taken left : List String}
    (h : slot.segment? words = some (taken, left)) : taken ++ left = words := by
  simp only [segment?] at h
  split at h
  · simp only [Option.some.injEq, Prod.mk.injEq] at h
    simp [← h.1, ← h.2]
  · simpa using append_of_grow? h

end Utterance.Slot
