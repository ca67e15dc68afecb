import Utterance.Slot.Segment

set_option autoImplicit false

/-!
# Splits

A greedy slot does not tell where its words end; the slot after it does. The words are split at
the first place from which the next slot takes a segment, with at least one word before it. When
the next slot is the last one, its segment has to reach the end of the sentence.

## Main definitions

* `Utterance.Split`: words cut into a run, the segment after it, and the rest.
* `Utterance.Slot.firstSplit?`: the first split after a run that is not empty.
* `Utterance.Slot.splitBefore`: the split of words between a greedy slot and the next slot.

## Main results

* `Utterance.Slot.append_of_firstSplit?`: the three parts of a split are the words given.
-/

namespace Utterance

/-- Words cut into the run of a greedy slot, the segment of the slot after it, and the rest. -/
structure Split where
  /-- The words of the greedy slot. -/
  run : List String
  /-- The words of the slot after it. -/
  segment : List String
  /-- The words after both. -/
  rest : List String
  deriving DecidableEq

namespace Slot

/-- The first split of the words after `run`, where `run` and the words up to the split are the
run of the greedy slot. -/
def firstSplit? (next : Slot) (isLast : Bool) (run : List String) : List String → Option Split
  | [] => none
  | word :: words =>
    match next.segment? (word :: words) with
    | some (segment, rest) =>
      if isLast && !rest.isEmpty then next.firstSplit? isLast (run ++ [word]) words
      else some ⟨run, segment, rest⟩
    | none => next.firstSplit? isLast (run ++ [word]) words

/-- The split of words between a greedy slot and the slot `next` after it, which must not be
greedy itself. -/
def splitBefore (next : Slot) (isLast : Bool) (words : List String) :
    Except RecognitionFailure (Option Split) :=
  match next, words with
  | greedy key, _ => .error (.greedyAfterGreedy key)
  | _, [] => .ok none
  | next, word :: words => .ok (next.firstSplit? isLast [word] words)

/-- A split loses no words: run, segment and rest are the words together. -/
theorem append_of_firstSplit? {next : Slot} {isLast : Bool} {run words : List String}
    {split : Split} (h : next.firstSplit? isLast run words = some split) :
    split.run ++ split.segment ++ split.rest = run ++ words := by
  induction words generalizing run with
  | nil => simp [firstSplit?] at h
  | cons word words ih =>
    simp only [firstSplit?] at h
    split at h
    · rename_i hsegment
      split at h
      · simpa using ih h
      · simp only [Option.some.injEq] at h
        simpa [← h] using append_of_segment? hsegment
    · simpa using ih h

end Slot

end Utterance
