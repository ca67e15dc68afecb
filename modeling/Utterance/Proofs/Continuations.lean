import Utterance.Proofs.Segments

set_option autoImplicit false

/-!
# Runs and their continuations

A fixed phrase or a time slot makes three things of a run of words, and each is a judgement on all
the ways in which the run may go on: `complete` on the run as it is, `begun` on the runs that go on
to a complete one, `rejected` on those that never do. So a run is given up exactly when nothing can
save it.

## Main results

* `Utterance.RelativeTime.isBegun_iff`: the beginnings of time phrases.
* `Utterance.Slot.isOpen_iff`: the beginnings of the runs that a slot takes.
* `Utterance.Slot.status_iff_continuations`: the status of a run by its continuations.
-/

namespace Utterance

namespace RelativeTime

open TimeWord

/-! ## Time phrases that wait for a word -/

/-- What waits for a word is no phrase yet. -/
lemma ofTimeWords?_eq_none_of_awaitsWord {a : List TimeWord} (h : awaitsWord a = true) :
    ofTimeWords? a = none := by
  unfold awaitsWord at h
  split at h
  all_goals first | rfl | exact Bool.noConfusion h

/-- What waits for a word becomes a phrase with a weekday, or with a clock time. -/
lemma isSome_of_awaitsWord {a : List TimeWord} (h : awaitsWord a = true) :
    (∀ w plain, (ofTimeWords? (a ++ [weekday w plain])).isSome = true) ∨
      ∀ hour minute, (ofTimeWords? (a ++ [clock hour minute])).isSome = true := by
  unfold awaitsWord at h
  split at h
  · exact .inl fun _ _ => rfl
  · exact .inr fun _ _ => rfl
  · exact .inr fun _ _ => rfl
  · exact .inr fun _ _ => rfl
  · exact .inr fun _ _ => rfl
  · exact Bool.noConfusion h

/-- **Beginnings of time phrases.** Words wait for a word exactly when they are no time phrase but
go on to one. -/
theorem isBegun_iff {ws : List String} (hws : ws ≠ []) :
    isBegun ws = true ↔
      ofWords? ws = none ∧ ∃ more, (ofWords? (ws ++ more)).isSome = true := by
  constructor
  · intro hbegun
    refine ⟨ofTimeWords?_eq_none_of_awaitsWord hbegun, ?_⟩
    have hmonday : ofWords ["monday"] = [weekday .monday true] := by decide
    have hclock : ofWords ["0am"] = [clock 0 0] := by decide
    obtain hday | hhour := isSome_of_awaitsWord hbegun
    · refine ⟨["monday"], ?_⟩
      rw [ofWords?, ofWords_append, hmonday]
      exact hday _ _
    · refine ⟨["0am"], ?_⟩
      rw [ofWords?, ofWords_append, hclock]
      exact hhour _ _
  · rintro ⟨hnone, more, hmore⟩
    obtain hbegun | hsome := isBegun_or_isSome_of_append hws hmore
    · exact hbegun
    · rw [hnone] at hsome
      cases hsome

end RelativeTime

namespace Slot

variable {slot : Slot} {run : List String}

/-! ## The status of a run -/

/-- A run is begun when the slot may take a longer one and does not take it yet. -/
lemma status_eq_begun_iff :
    slot.status run = .begun ↔ slot.isOpen run = true ∧ slot.isComplete run = false := by
  unfold status
  by_cases ho : slot.isOpen run = true
  · by_cases hc : slot.isComplete run = true <;> simp [ho, hc]
  · simp [ho]

/-- **Beginnings of complete runs.** A slot other than a greedy one is open to a run exactly when
the run, or the run with more words, is complete. -/
theorem isOpen_iff (hgreedy : slot.isGreedy = false) (hrun : run ≠ []) :
    slot.isOpen run = true ↔ ∃ more, slot.isComplete (run ++ more) = true := by
  constructor
  · intro hopen
    cases slot with
    | fixed phrase =>
      rw [isOpen, List.isPrefixOf_iff_prefix] at hopen
      obtain ⟨more, rfl⟩ := hopen
      exact ⟨more, by simp [isComplete]⟩
    | greedy key => exact Bool.noConfusion hgreedy
    | time key =>
      rw [isOpen, Bool.or_eq_true] at hopen
      obtain hbegun | hsome := hopen
      · exact ((RelativeTime.isBegun_iff hrun).1 hbegun).2
      · exact ⟨[], by simpa [isComplete] using hsome⟩
  · rintro ⟨more, hmore⟩
    exact isOpen_of_isComplete_append hrun hmore

/-- **The status of a run by its continuations.** For a fixed phrase or a time slot, a run with
words is `complete` when the slot takes it, `begun` when the slot takes it only with more words, and
`rejected` when the slot takes it neither as it is nor with any more words. In particular a run
waits for a word of a time phrase exactly when it is no time phrase but goes on to one. -/
theorem status_iff_continuations (hgreedy : slot.isGreedy = false) (hrun : run ≠ []) :
    (slot.status run = .complete ↔ slot.isComplete run = true) ∧
    (slot.status run = .begun ↔
      slot.isComplete run = false ∧ ∃ more, slot.isComplete (run ++ more) = true) ∧
    (slot.status run = .rejected ↔ ∀ more, slot.isComplete (run ++ more) = false) ∧
    (RelativeTime.isBegun run = true ↔ RelativeTime.ofWords? run = none ∧
      ∃ more, (RelativeTime.ofWords? (run ++ more)).isSome = true) := by
  refine ⟨status_eq_complete_iff, ?_, ?_, RelativeTime.isBegun_iff hrun⟩
  · rw [status_eq_begun_iff, isOpen_iff hgreedy hrun, and_comm]
  · rw [status_eq_rejected_iff, ← Bool.not_eq_true, isOpen_iff hgreedy hrun]
    simp only [not_exists, Bool.not_eq_true]

/-- A weekday in front of `at` waits for a clock time when it is spelled in lower case, also where
one word holds several; with a capital letter it waits for nothing. -/
theorem status_onFridayAt :
    (time "when").isGreedy = false ∧ ["on friday", "at"] ≠ [] ∧ ["on", "Friday", "at"] ≠ [] ∧
      (∃ more, (time "when").isComplete (["on friday", "at"] ++ more) = true) ∧
      ∀ more, (time "when").isComplete (["on", "Friday", "at"] ++ more) = false := by
  have htime : (time "when").isGreedy = false := rfl
  have hsmall : ["on friday", "at"] ≠ [] := by simp
  have hcapital : ["on", "Friday", "at"] ≠ [] := by simp
  obtain ⟨-, hbegun, -, -⟩ := status_iff_continuations htime hsmall
  obtain ⟨-, -, hrejected, -⟩ := status_iff_continuations htime hcapital
  exact ⟨htime, hsmall, hcapital, (hbegun.1 (by decide)).2, hrejected.1 (by decide)⟩

end Slot

end Utterance
