import Utterance.Slot.Split

set_option autoImplicit false

/-!
# Cutting a sentence along a row of slots

Every slot in turn takes its words at the front of what the slots before it have left. A greedy
slot takes its words together with the slot after it. Nothing that has been taken is given back, so
a slot that finds no words ends the cut. What is left after the last slot does not matter.

Cutting looks at words only. The values of the segments come later, since they depend on a
reference time.

## Main definitions

* `Utterance.Segment`: the words that a slot has taken.
* `Utterance.Cut`: the segments of a row of slots, up to where it ends.
* `Utterance.cut`: the cut of a sentence along a row of slots.

## Main results

* `Utterance.cut_nil`: the cut at the end of the row.
-/

namespace Utterance

/-- The words that a slot has taken. -/
structure Segment where
  /-- The slot. -/
  slot : Slot
  /-- The words. -/
  words : List String
  deriving DecidableEq

/-- How a cut ends. -/
inductive CutEnd where
  /-- Every slot has its words. -/
  | finished
  /-- A slot finds no words that it takes. -/
  | stopped
  /-- The row of slots cannot be followed further. -/
  | failed (failure : RecognitionFailure)
  deriving DecidableEq

/-- The segments of a row of slots, up to where the cut ends. -/
structure Cut where
  /-- The segments, in the order of the slots. -/
  segments : List Segment
  /-- How the cut ends after them. -/
  ending : CutEnd
  deriving DecidableEq

/-- The cut with more segments in front. -/
def Cut.after (segments : List Segment) (c : Cut) : Cut :=
  { c with segments := segments ++ c.segments }

/-- The cut of `words` along a row of slots. -/
def cut : List Slot → (words : List String) → Cut
  | [], _ => ⟨[], .finished⟩
  | .greedy key :: next :: slots, words =>
    match next.splitBefore slots.isEmpty words with
    | .error failure => ⟨[], .failed failure⟩
    | .ok none => ⟨[], .stopped⟩
    | .ok (some split) =>
      (cut slots split.rest).after [⟨.greedy key, split.run⟩, ⟨next, split.segment⟩]
  | slot :: slots, words =>
    match slot.segment? words with
    | none => ⟨[], .stopped⟩
    | some (taken, rest) => (cut slots rest).after [⟨slot, taken⟩]

/-- A row without slots is cut at once. -/
@[simp] theorem cut_nil (words : List String) : cut [] words = ⟨[], .finished⟩ := by
  simp [cut]

end Utterance
