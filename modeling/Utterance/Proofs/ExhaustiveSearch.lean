import Mathlib.Data.List.Infix
import Utterance.Proofs.Segments

set_option autoImplicit false

/-!
# Exhaustive search for a segment

Growing a run word by word looks at the beginnings of a sentence only up to the first one that the
slot rejects, and it remembers the last complete run while it goes on. Nothing is missed by that:
judging every beginning, whatever the slot makes of those before it, leads to the same segment.

## Main definitions

* `Utterance.Slot.completeRuns`: all beginnings of some words that a slot takes.

## Main results

* `Utterance.Slot.getLast?_completeRuns_eq_some_iff`: the last of them is the longest run that the
  slot takes.
* `Utterance.Slot.segment?_eq_exhaustive`: growing finds what the exhaustive search finds.
-/

namespace Utterance.Slot

variable {slot : Slot} {words run : List String}

/-! ## All beginnings -/

/-- The non-empty beginnings of `words` that are complete, from the shortest to the longest. -/
def completeRuns (slot : Slot) (words : List String) : List (List String) :=
  words.inits.filter fun run => !run.isEmpty && slot.isComplete run

/-- The complete runs are the non-empty beginnings of the words that the slot takes. -/
lemma mem_completeRuns_iff : run ∈ slot.completeRuns words ↔
    run ≠ [] ∧ run <+: words ∧ slot.isComplete run = true := by
  simp only [completeRuns, List.mem_filter, List.mem_inits, Bool.and_eq_true, Bool.not_eq_true',
    List.isEmpty_eq_false_iff]
  exact and_left_comm

/-- The beginnings of some words are listed by their lengths. -/
lemma pairwise_length_inits (words : List String) :
    words.inits.Pairwise fun run longer => run.length < longer.length := by
  induction words with
  | nil => simp
  | cons word words ih =>
    rw [List.inits_cons, List.pairwise_cons, List.pairwise_map]
    refine ⟨fun run hrun => ?_, ih.imp fun hlt => Nat.succ_lt_succ hlt⟩
    obtain ⟨more, -, rfl⟩ := List.mem_map.1 hrun
    exact Nat.succ_pos _

/-- The last complete beginning is the longest run that the slot takes. -/
lemma isLongestRun_of_getLast?_completeRuns (h : (slot.completeRuns words).getLast? = some run) :
    IsLongestRun (fun run => slot.isComplete run = true) words run := by
  obtain ⟨hne, hprefix, hcomplete⟩ := mem_completeRuns_iff.1 (List.mem_of_getLast? h)
  refine ⟨hne, hprefix, hcomplete, fun other hother hbegins hp => ?_⟩
  have hsorted := (pairwise_length_inits words).filter
    fun run => !run.isEmpty && slot.isComplete run
  have hmem : other ∈ slot.completeRuns words := mem_completeRuns_iff.2 ⟨hother, hbegins, hp⟩
  -- the other run is the last one itself or stands before it
  obtain ⟨front, hfront⟩ := List.getLast?_eq_some_iff.1 h
  rw [completeRuns] at hfront hmem
  rw [hfront, List.pairwise_append] at hsorted
  rw [hfront, List.mem_append, List.mem_singleton] at hmem
  obtain hmem | rfl := hmem
  · exact Nat.le_of_lt (hsorted.2.2 other hmem run List.mem_cons_self)
  · exact Nat.le_refl _

/-- Searching all beginnings finds none exactly when none is complete. -/
lemma getLast?_completeRuns_eq_none_iff : (slot.completeRuns words).getLast? = none ↔
    ∀ run, run ≠ [] → run <+: words → slot.isComplete run = false := by
  rw [List.getLast?_eq_none_iff, List.eq_nil_iff_forall_not_mem]
  simp only [mem_completeRuns_iff, not_and, Bool.not_eq_true]

/-- Searching all beginnings finds the longest run that the slot takes. -/
theorem getLast?_completeRuns_eq_some_iff : (slot.completeRuns words).getLast? = some run ↔
    IsLongestRun (fun run => slot.isComplete run = true) words run := by
  refine ⟨isLongestRun_of_getLast?_completeRuns, fun h => ?_⟩
  cases hlast : (slot.completeRuns words).getLast? with
  | none =>
    have hnone := getLast?_completeRuns_eq_none_iff.1 hlast run h.ne_nil h.isPrefix
    exact absurd h.holds (Bool.eq_false_iff.1 hnone)
  | some last => rw [(isLongestRun_of_getLast?_completeRuns hlast).unique h]

/-! ## Growing against searching -/

/-- Growing finds exactly the longest run that the slot takes, also for a phrase without words. -/
lemma segment?_eq_some_iff_isLongestRun (hslot : slot.isGreedy = false) {taken left : List String} :
    slot.segment? words = some (taken, left) ↔
      IsLongestRun (fun run => slot.isComplete run = true) words taken ∧ taken ++ left = words := by
  refine segment?_eq_some_iff_of_unique (fun _ _ h => isLongestRun_of_segment? hslot h)
    (fun _ _ h h' => h.unique h') fun hnone taken hlongest => ?_
  have hfalse := isComplete_eq_false_of_segment? hnone hlongest.ne_nil hlongest.isPrefix
  exact Bool.eq_false_iff.1 hfalse hlongest.holds

/-- Growing finds nothing exactly when the slot takes no beginning of the words. -/
lemma segment?_eq_none_iff_forall (hslot : slot.isGreedy = false) :
    slot.segment? words = none ↔
      ∀ run, run ≠ [] → run <+: words → slot.isComplete run = false := by
  refine ⟨fun h run hne hrun => isComplete_eq_false_of_segment? h hne hrun, fun h => ?_⟩
  rw [Option.eq_none_iff_forall_ne_some]
  rintro ⟨taken, left⟩ hsegment
  have hlongest := isLongestRun_of_segment? hslot hsegment
  exact Bool.eq_false_iff.1 (h taken hlongest.ne_nil hlongest.isPrefix) hlongest.holds

/-- A phrase without words has no segment. -/
lemma segment?_fixed_nil (words : List String) : (fixed []).segment? words = none := by
  rw [segment?_eq_none_iff_forall rfl]
  intro run hne _
  rw [isComplete, beq_eq_false_iff_ne]
  exact hne.symm

/-- **Growing is an exhaustive search.** For a fixed phrase or a time slot the segment is the
longest complete one among all non-empty beginnings of the words, and there is none only when none
of them is complete; a phrase without words never has one. A greedy slot takes all words, also when
there are none.

**Proof sketch.** A slot is open to every beginning of a complete run
(`isOpen_of_isComplete_append`), so growing passes all of them before it stops, and keeps the last
one. The search lists the beginnings by their lengths, so its last one is the longest too, and there
is one longest run. -/
theorem segment?_eq_exhaustive (slot : Slot) (words : List String) :
    (slot.isGreedy = true → slot.segment? words = some (words, [])) ∧
    (slot.isGreedy = false →
      (slot.segment? words =
        (slot.completeRuns words).getLast?.map fun run => (run, words.drop run.length)) ∧
      (∀ taken left, slot.segment? words = some (taken, left) ↔
        IsLongestRun (fun run => slot.isComplete run = true) words taken ∧
          taken ++ left = words) ∧
      (slot.segment? words = none ↔
        ∀ run, run ≠ [] → run <+: words → slot.isComplete run = false)) ∧
    (fixed []).segment? words = none := by
  refine ⟨fun hgreedy => if_pos hgreedy, fun hslot => ⟨?_, ?_, ?_⟩, segment?_fixed_nil words⟩
  · cases hlast : (slot.completeRuns words).getLast? with
    | none =>
      rw [Option.map_none, segment?_eq_none_iff_forall hslot]
      exact getLast?_completeRuns_eq_none_iff.1 hlast
    | some run =>
      have hlongest := getLast?_completeRuns_eq_some_iff.1 hlast
      rw [Option.map_some, segment?_eq_some_iff_isLongestRun hslot]
      exact ⟨hlongest, (List.prefix_append_drop hlongest.isPrefix).symm⟩
  · exact fun taken left => segment?_eq_some_iff_isLongestRun hslot
  · exact segment?_eq_none_iff_forall hslot

/-- The run `tomorrow` is kept although the slot goes on with `tomorrow at`, which leads nowhere. -/
theorem segment?_tomorrow_at_remind : (time "when").isGreedy = false ∧
    (time "when").segment? ["tomorrow", "at", "remind", "me"] =
      some (["tomorrow"], ["at", "remind", "me"]) := by
  have htime : (time "when").isGreedy = false := rfl
  obtain ⟨hsearch, -, -⟩ :=
    (segment?_eq_exhaustive (time "when") ["tomorrow", "at", "remind", "me"]).2.1 htime
  exact ⟨htime, hsearch.trans (by decide)⟩

end Utterance.Slot
