import Mathlib.Order.Bounds.Basic
import Utterance.Proofs.ExhaustiveSearch
import Utterance.Proofs.Splits

set_option autoImplicit false

/-!
# The leftmost split before a slot

Where the words of a greedy slot end can be said by places alone, without growing or trying
anything: a place is a number of words, and the next slot can begin there or not. A fixed phrase can
begin where its words stand, a time slot where some time phrase begins; a last slot, which has to
take all words, where the phrase goes on to the end. The split is the one at the least such place
after the first word.

## Main definitions

* `Utterance.Slot.CanBegin`: whether a slot can begin with the words from some place on.
* `Utterance.Slot.places`: the places where a slot can begin after a first word.
* `Utterance.Slot.IsLeftmostSplit`: the split at the least place.

## Main results

* `Utterance.Slot.takesAfterRun_iff`: the segment after a run, said by places.
* `Utterance.Slot.splitBefore_leftmost`: trying the places from the left finds the leftmost split.
-/

namespace Utterance.Slot

variable {next : Slot} {isLast : Bool} {words after taken run : List String} {split : Split}

/-! ## Places -/

/-- Whether the slot can begin with the words `after`, which are all words from some place on. A
last slot has to take all of them. -/
def CanBegin (next : Slot) (isLast : Bool) (after : List String) : Prop :=
  match next, isLast with
  | fixed phrase, false => phrase ≠ [] ∧ phrase <+: after
  | fixed phrase, true => after = phrase
  | time _, false => ∃ run, run ≠ [] ∧ run <+: after ∧ (RelativeTime.ofWords? run).isSome = true
  | time _, true => (RelativeTime.ofWords? after).isSome = true
  | greedy _, _ => False

/-- The words of the slot where it begins with `after`: those of the phrase, or the longest time
phrase, which for a last slot is all of `after`. -/
def BeginsWith (next : Slot) (isLast : Bool) (after taken : List String) : Prop :=
  match next, isLast with
  | fixed phrase, _ => taken = phrase
  | time _, false =>
    IsLongestRun (fun run => (RelativeTime.ofWords? run).isSome = true) after taken
  | time _, true => taken = after
  | greedy _, _ => False

/-- The places among `words` where the slot can begin, with at least one word before and one
after. -/
def places (next : Slot) (isLast : Bool) (words : List String) : Set ℕ :=
  {s | 1 ≤ s ∧ s < words.length ∧ next.CanBegin isLast (words.drop s)}

/-- The split of `words` at the least place where the slot can begin. -/
structure IsLeftmostSplit (next : Slot) (isLast : Bool) (words : List String) (split : Split) :
    Prop where
  /-- The run ends at the least place. -/
  isLeast : IsLeast (next.places isLast words) split.run.length
  /-- The segment is what the slot takes there. -/
  beginsWith : next.BeginsWith isLast (words.drop split.run.length) split.segment
  /-- The three parts are the words. -/
  append_eq : split.run ++ (split.segment ++ split.rest) = words

/-! ## Segments at a place -/

/-- A slot that can begin somewhere takes words there. -/
lemma exists_beginsWith (h : next.CanBegin isLast after) :
    ∃ taken, next.BeginsWith isLast after taken := by
  cases next with
  | fixed phrase => exact ⟨phrase, rfl⟩
  | greedy key => cases h
  | time key =>
    cases isLast with
    | true => exact ⟨after, rfl⟩
    | false =>
      obtain ⟨run, hne, hrun, hphrase⟩ := h
      cases hsegment : (time key).segment? after with
      | none =>
        have hnone := (segment?_eq_none_iff_forall rfl).1 hsegment run hne hrun
        exact absurd hphrase (Bool.eq_false_iff.1 hnone)
      | some found => exact ⟨found.1, isLongestRun_of_segment? rfl hsegment⟩

/-- A run ends at a place when the slot can begin after it. -/
lemma length_mem_places (hne : run ≠ []) (hafter : after ≠ [])
    (hbegin : next.CanBegin isLast after) : run.length ∈ next.places isLast (run ++ after) := by
  refine ⟨List.length_pos_iff.2 hne, ?_, ?_⟩
  · rw [List.length_append]
    exact Nat.lt_add_of_pos_right (List.length_pos_iff.2 hafter)
  · rwa [List.drop_left]

/-- A phrase without words can begin nowhere after a first word. -/
lemma places_of_isEmptyPhrase (hphrase : next.isEmptyPhrase = true) :
    next.places isLast words = ∅ := by
  cases next with
  | greedy key => cases hphrase
  | time key => cases hphrase
  | fixed phrase =>
    obtain rfl : phrase = [] := List.isEmpty_iff.1 hphrase
    rw [Set.eq_empty_iff_forall_notMem]
    rintro s ⟨-, hlt, hbegin⟩
    cases isLast with
    | false => exact hbegin.1 rfl
    | true => exact absurd (List.drop_eq_nil_iff.1 hbegin) (Nat.not_le.2 hlt)

/-- **The segment after a run**, said by the words from its place on. -/
theorem takesAfterRun_iff (hslot : next.isGreedy = false) (hphrase : next.isEmptyPhrase = false) :
    next.TakesAfterRun isLast after taken ↔
      next.CanBegin isLast after ∧ next.BeginsWith isLast after taken := by
  cases next with
  | greedy key => cases hslot
  | fixed phrase =>
    have hne : phrase ≠ [] := by simpa [isEmptyPhrase] using hphrase
    cases isLast with
    | false =>
      constructor
      · rintro ⟨⟨htaken, hbegins⟩, -⟩
        exact ⟨⟨hne, hbegins⟩, htaken⟩
      · rintro ⟨⟨-, hbegins⟩, htaken⟩
        exact ⟨⟨htaken, hbegins⟩, Bool.noConfusion⟩
    | true =>
      constructor
      · rintro ⟨⟨htaken, -⟩, hall⟩
        exact ⟨(hall rfl).symm.trans htaken, htaken⟩
      · rintro ⟨hafter, htaken⟩
        obtain rfl : after = phrase := hafter
        exact ⟨⟨htaken, List.prefix_rfl⟩, fun _ => htaken⟩
  | time key =>
    have hlongest : (time key).Takes after taken ↔
        IsLongestRun (fun run => (RelativeTime.ofWords? run).isSome = true) after taken :=
      takes_iff_isLongestRun rfl rfl
    rw [TakesAfterRun, hlongest]
    cases isLast with
    | false =>
      constructor
      · rintro ⟨htakes, -⟩
        exact ⟨⟨taken, htakes.ne_nil, htakes.isPrefix, htakes.holds⟩, htakes⟩
      · rintro ⟨-, htakes⟩
        exact ⟨htakes, Bool.noConfusion⟩
    | true =>
      constructor
      · rintro ⟨htakes, hall⟩
        obtain rfl := hall rfl
        exact ⟨htakes.holds, rfl⟩
      · rintro ⟨hafter, htaken⟩
        obtain rfl : taken = after := htaken
        obtain ⟨t, ht⟩ := Option.isSome_iff_exists.1 hafter
        exact ⟨.self (RelativeTime.ne_nil_of_ofWords? ht) hafter, fun _ => rfl⟩

/-! ## The least place -/

/-- A run is the shortest one before a slot exactly when it ends at the least place. -/
lemma isShortestRun_iff_isLeast (hslot : next.isGreedy = false)
    (hphrase : next.isEmptyPhrase = false) (hwords : run ++ after = words) :
    next.IsShortestRun isLast words run ↔ IsLeast (next.places isLast words) run.length := by
  constructor
  · intro h
    obtain ⟨after', taken, hwords', htaken⟩ := h.follows
    constructor
    · rw [← hwords']
      exact length_mem_places h.ne_nil (htaken.1.words_ne_nil hslot hphrase)
        ((takesAfterRun_iff hslot hphrase).1 htaken).1
    · rintro s ⟨hpos, hlt, hbegin⟩
      -- the words up to another place are another run
      have hlength : (words.take s).length = s := List.length_take_of_le hlt.le
      obtain ⟨taken', htaken'⟩ := exists_beginsWith hbegin
      rw [← hlength]
      exact h.length_le _ _ taken' (List.ne_nil_of_length_pos (by omega))
        (List.take_append_drop s words) ((takesAfterRun_iff hslot hphrase).2 ⟨hbegin, htaken'⟩)
  · rintro ⟨⟨hpos, -, hbegin⟩, hleast⟩
    rw [← hwords, List.drop_left] at hbegin
    obtain ⟨taken, htaken⟩ := exists_beginsWith hbegin
    refine ⟨List.length_pos_iff.1 hpos,
      ⟨after, taken, hwords, (takesAfterRun_iff hslot hphrase).2 ⟨hbegin, htaken⟩⟩, ?_⟩
    rintro other after' taken' hne rfl htaken'
    exact hleast (length_mem_places hne (htaken'.1.words_ne_nil hslot hphrase)
      ((takesAfterRun_iff hslot hphrase).1 htaken').1)

/-! ## Trying the places from the left -/

/-- Before a phrase without words no split is ever found. -/
lemma splitBefore_of_isEmptyPhrase (hphrase : next.isEmptyPhrase = true) :
    next.splitBefore isLast words = .ok none := by
  cases next with
  | greedy key => cases hphrase
  | time key => cases hphrase
  | fixed phrase =>
    obtain rfl : phrase = [] := List.isEmpty_iff.1 hphrase
    have hfirst (run words : List String) : (fixed []).firstSplit? isLast run words = none := by
      induction words generalizing run with
      | nil => rfl
      | cons word words ih => rw [firstSplit?, segment?_fixed_nil, ih]
    cases words with
    | nil => rfl
    | cons word words => rw [splitBefore_cons rfl, hfirst]

/-- The split that is found is the leftmost one. -/
lemma splitBefore_eq_some_iff_isLeftmostSplit (hslot : next.isGreedy = false) :
    next.splitBefore isLast words = .ok (some split) ↔ next.IsLeftmostSplit isLast words split := by
  cases hphrase : next.isEmptyPhrase with
  | true =>
    rw [splitBefore_of_isEmptyPhrase hphrase]
    constructor
    · intro h
      cases h
    · intro h
      have hmem := h.isLeast.1
      rw [places_of_isEmptyPhrase hphrase] at hmem
      exact absurd hmem (Set.notMem_empty _)
  | false =>
    rw [splitBefore_eq_some_iff hslot hphrase]
    constructor
    · rintro ⟨hrun, htakes, hwords⟩
      refine ⟨(isShortestRun_iff_isLeast hslot hphrase hwords).1 hrun, ?_, hwords⟩
      rw [← hwords, List.drop_left]
      exact ((takesAfterRun_iff hslot hphrase).1 htakes).2
    · intro h
      refine ⟨(isShortestRun_iff_isLeast hslot hphrase h.append_eq).2 h.isLeast, ?_, h.append_eq⟩
      have hdrop : words.drop split.run.length = split.segment ++ split.rest := by
        rw [← h.append_eq, List.drop_left]
      rw [takesAfterRun_iff hslot hphrase, ← hdrop]
      exact ⟨h.isLeast.1.2.2, h.beginsWith⟩

/-- No split is found exactly when there is no place for the slot. -/
lemma splitBefore_eq_none_iff_places (hslot : next.isGreedy = false) :
    next.splitBefore isLast words = .ok none ↔ next.places isLast words = ∅ := by
  cases hphrase : next.isEmptyPhrase with
  | true => exact iff_of_true (splitBefore_of_isEmptyPhrase hphrase) (places_of_isEmptyPhrase hphrase)
  | false =>
    rw [splitBefore_eq_none_iff hslot hphrase, Set.eq_empty_iff_forall_notMem]
    constructor
    · rintro h s ⟨hpos, hlt, hbegin⟩
      obtain ⟨taken, htaken⟩ := exists_beginsWith hbegin
      have hne : words.take s ≠ [] :=
        List.ne_nil_of_length_pos (by rw [List.length_take_of_le hlt.le]; omega)
      exact h _ _ taken hne (List.take_append_drop s words)
        ((takesAfterRun_iff hslot hphrase).2 ⟨hbegin, htaken⟩)
    · rintro h run after taken hne rfl htaken
      exact h run.length (length_mem_places hne
        (htaken.1.words_ne_nil hslot hphrase) ((takesAfterRun_iff hslot hphrase).1 htaken).1)

/-! ## What the leftmost split is like -/

/-- A last slot takes all words from its place on. -/
lemma eq_of_beginsWith_last (hbegin : next.CanBegin true after)
    (h : next.BeginsWith true after taken) : taken = after := by
  cases next with
  | fixed phrase => exact h.trans hbegin.symm
  | greedy key => cases hbegin
  | time key => exact h

/-- A slot takes words where it begins. -/
lemma ne_nil_of_beginsWith (hafter : after ≠ []) (hbegin : next.CanBegin isLast after)
    (h : next.BeginsWith isLast after taken) : taken ≠ [] := by
  cases isLast with
  | true =>
    rw [eq_of_beginsWith_last hbegin h]
    exact hafter
  | false =>
    cases next with
    | fixed phrase =>
      obtain rfl : taken = phrase := h
      exact hbegin.1
    | greedy key => cases hbegin
    | time key => exact IsLongestRun.ne_nil h

namespace IsLeftmostSplit

/-- Behind the run stand the segment of the next slot and the rest. -/
lemma drop_eq (h : next.IsLeftmostSplit isLast words split) :
    words.drop split.run.length = split.segment ++ split.rest := by
  rw [← h.append_eq, List.drop_left]

/-- The next slot takes a word at least. -/
lemma segment_ne_nil (h : next.IsLeftmostSplit isLast words split) : split.segment ≠ [] := by
  obtain ⟨-, hlt, hbegin⟩ := h.isLeast.1
  exact ne_nil_of_beginsWith (mt List.drop_eq_nil_iff.1 (Nat.not_le.2 hlt)) hbegin h.beginsWith

/-- Before a last slot no word is left over. -/
lemma append_eq_of_last (h : next.IsLeftmostSplit true words split) :
    split.run ++ split.segment = words := by
  have hall := eq_of_beginsWith_last h.isLeast.1.2.2 h.beginsWith
  rw [h.drop_eq] at hall
  rw [hall, h.append_eq]

/-- A last phrase stands at the end of the words. -/
lemma length_of_last_fixed {phrase : List String}
    (h : (fixed phrase).IsLeftmostSplit true words split) :
    split.run.length + phrase.length = words.length := by
  obtain hsegment : split.segment = phrase := h.beginsWith
  rw [← h.append_eq_of_last, List.length_append, hsegment]

/-- A last time slot has the longest time phrase at the end of the words that leaves a word for the
run. -/
lemma length_le_of_last_time {key : String} (h : (time key).IsLeftmostSplit true words split)
    (hne : run ≠ []) (hwords : run ++ after = words)
    (hafter : (RelativeTime.ofWords? after).isSome = true) :
    after.length ≤ split.segment.length := by
  obtain ⟨t, ht⟩ := Option.isSome_iff_exists.1 hafter
  have hmem : run.length ∈ (time key).places true words :=
    hwords ▸ length_mem_places hne (RelativeTime.ne_nil_of_ofWords? ht) hafter
  have hle := h.isLeast.2 hmem
  have hlength := congrArg List.length (hwords.trans h.append_eq_of_last.symm)
  rw [List.length_append, List.length_append] at hlength
  omega

end IsLeftmostSplit

/-- **The leftmost split.** Before a slot that is not greedy splitting always gives an answer. It
finds the split at the least place where the slot can begin, with what the slot takes there, and
finds none exactly when there is no such place. The run is never empty and neither is the segment;
before a last slot the two are all words, so that a last phrase stands at the end, and a last time
slot has the longest time phrase at the end that leaves a word for the run.

**Proof sketch.** The shortest run before a slot ends at the least place
(`isShortestRun_iff_isLeast`): the segment of a slot after a run is what the slot takes at that
place (`takesAfterRun_iff`), and where a time phrase begins there is a longest one. -/
theorem splitBefore_leftmost (hslot : next.isGreedy = false) (isLast : Bool)
    (words : List String) :
    (∃ found, next.splitBefore isLast words = .ok found) ∧
    (∀ split, next.splitBefore isLast words = .ok (some split) ↔
      next.IsLeftmostSplit isLast words split) ∧
    (next.splitBefore isLast words = .ok none ↔ next.places isLast words = ∅) ∧
    ∀ split, next.IsLeftmostSplit isLast words split →
      split.run = words.take split.run.length ∧ split.segment ≠ [] ∧
      split.run ++ split.segment <+: words ∧
      (isLast = true → split.run ++ split.segment = words ∧
        (∀ phrase, next = fixed phrase → split.run.length + phrase.length = words.length) ∧
        ∀ key, next = time key → ∀ run after, run ≠ [] → run ++ after = words →
          (RelativeTime.ofWords? after).isSome = true → after.length ≤ split.segment.length) := by
  refine ⟨exists_splitBefore hslot isLast words,
    fun split => splitBefore_eq_some_iff_isLeftmostSplit hslot,
    splitBefore_eq_none_iff_places hslot, fun split h => ⟨?_, h.segment_ne_nil, ?_, ?_⟩⟩
  · conv_rhs => rw [← h.append_eq, List.take_left]
  · rw [← h.append_eq, ← List.append_assoc]
    exact List.prefix_append _ _
  · rintro rfl
    refine ⟨h.append_eq_of_last, ?_, ?_⟩
    · rintro phrase rfl
      exact h.length_of_last_fixed
    · rintro key rfl run after hne hwords hafter
      exact h.length_le_of_last_time hne hwords hafter

/-- In `meet at noon at 5pm` no time phrase ends the words before the last two, so the run keeps
`at noon`. -/
theorem isLeftmostSplit_meet_at_noon : (time "when").isGreedy = false ∧
    (time "when").IsLeftmostSplit true ["meet", "at", "noon", "at", "5pm"]
      ⟨["meet", "at", "noon"], ["at", "5pm"], []⟩ := by
  have htime : (time "when").isGreedy = false := rfl
  obtain ⟨-, hsome, -, -⟩ :=
    splitBefore_leftmost htime true ["meet", "at", "noon", "at", "5pm"]
  exact ⟨htime, (hsome _).1 (by decide)⟩

end Utterance.Slot
