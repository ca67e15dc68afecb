import Mathlib.Tactic.Lemma
import Utterance.Repertoire

set_option autoImplicit false

/-!
# Trying one after the other

A command tries its grammars from left to right and stops at the first that fits. A repertoire asks
each of its commands, since a later one may be better. Either of them fails as soon as one that it
tries does.

## Main results

* `Utterance.Command.firstExtract_eq_none_iff`, `Utterance.Command.firstExtract_eq_some_iff`: a
  command answers with its first grammar that fits.
* `Utterance.Command.exists_of_firstExtract_eq_error`: a command fails with one of its grammars.
* `Utterance.Repertoire.exists_bestOf_iff`: several commands answer if each of them does.
* `Utterance.Repertoire.exists_of_bestOf_eq_error`: several commands fail with one of them.
* `Utterance.Command.firstExtract_congr`, `Utterance.Repertoire.bestOf_congr`: nothing else counts.
-/

namespace Utterance

open Calendar Text

/-! ## The grammars of a command -/

namespace Command

variable {ws : List String} {now : Timestamp} {grammars : List Grammar} {e : Extract}
  {failure : RecognitionFailure}

/-- A command does not fit exactly when none of its grammars does. -/
theorem firstExtract_eq_none_iff : firstExtract ws now grammars = .ok none ↔
    ∀ grammar ∈ grammars, grammar.extract ws now = .ok none := by
  induction grammars with
  | nil => simp [firstExtract]
  | cons grammar grammars ih =>
    rw [List.forall_mem_cons, ← ih, firstExtract]
    cases grammar.extract ws now with
    | error failure => simp
    | ok answer => cases answer <;> simp

/-- A command answers with the first of its grammars that fits. -/
theorem firstExtract_eq_some_iff : firstExtract ws now grammars = .ok (some e) ↔
    ∃ front grammar back, grammars = front ++ grammar :: back ∧
      (∀ other ∈ front, other.extract ws now = .ok none) ∧
      grammar.extract ws now = .ok (some e) := by
  constructor
  · intro h
    induction grammars with
    | nil => simp [firstExtract] at h
    | cons grammar grammars ih =>
      rw [firstExtract] at h
      split at h
      · cases h
      · rename_i hfound
        exact ⟨[], grammar, grammars, rfl, by simp, hfound.trans h⟩
      · rename_i hnone
        obtain ⟨front, found, back, rfl, hfront, hfound⟩ := ih h
        refine ⟨grammar :: front, found, back, rfl, ?_, hfound⟩
        exact List.forall_mem_cons.2 ⟨hnone, hfront⟩
  · rintro ⟨front, grammar, back, rfl, hfront, hfound⟩
    induction front with
    | nil => rw [List.nil_append, firstExtract, hfound]
    | cons other front ih =>
      rw [List.forall_mem_cons] at hfront
      rw [List.cons_append, firstExtract, hfront.1]
      exact ih hfront.2

/-- A command fails with one of its grammars. -/
theorem exists_of_firstExtract_eq_error (h : firstExtract ws now grammars = .error failure) :
    ∃ grammar ∈ grammars, grammar.extract ws now = .error failure := by
  induction grammars with
  | nil => cases h
  | cons grammar grammars ih =>
    rw [firstExtract] at h
    split at h
    · rename_i hfailure
      exact ⟨grammar, List.mem_cons_self, hfailure.trans h⟩
    · cases h
    · obtain ⟨other, hmem, hother⟩ := ih h
      exact ⟨other, List.mem_cons_of_mem _ hmem, hother⟩

/-- Grammars that answer alike one by one answer alike together. -/
theorem firstExtract_congr {ws' : List String} {now' : Timestamp}
    (h : ∀ grammar ∈ grammars, grammar.extract ws now = grammar.extract ws' now') :
    firstExtract ws now grammars = firstExtract ws' now' grammars := by
  induction grammars with
  | nil => rfl
  | cons grammar grammars ih =>
    rw [List.forall_mem_cons] at h
    rw [firstExtract, firstExtract, h.1, ih h.2]

/-- Grammars that have one extract or none have that extract together, in whatever order. -/
theorem firstExtract_eq_some
    (h : ∀ grammar ∈ grammars,
      grammar.extract ws now = .ok none ∨ grammar.extract ws now = .ok (some e))
    (hsome : ∃ grammar ∈ grammars, grammar.extract ws now = .ok (some e)) :
    firstExtract ws now grammars = .ok (some e) := by
  cases hanswer : firstExtract ws now grammars with
  | error failure =>
    obtain ⟨grammar, hmem, hfailure⟩ := exists_of_firstExtract_eq_error hanswer
    have hanswers := h grammar hmem
    simp [hfailure] at hanswers
  | ok answer =>
    cases answer with
    | none =>
      obtain ⟨grammar, hmem, hfound⟩ := hsome
      rw [firstExtract_eq_none_iff.1 hanswer grammar hmem] at hfound
      cases hfound
    | some e' =>
      obtain ⟨front, grammar, back, rfl, -, hfound⟩ := firstExtract_eq_some_iff.1 hanswer
      obtain hnone | hsame := h grammar (by simp)
      · rw [hnone] at hfound
        cases hfound
      · exact hfound.symm.trans hsame

end Command

/-! ## The commands of a repertoire -/

namespace Repertoire

variable {sentence : String} {now : Timestamp} {best : Option Recognition} {commands : List Command}

/-- Several commands answer together exactly when each of them does. -/
theorem exists_bestOf_iff : (∃ answer, bestOf sentence now best commands = .ok answer) ↔
    ∀ command ∈ commands, ∃ answer, command.extract sentence now = .ok answer := by
  induction commands generalizing best with
  | nil => simp [bestOf]
  | cons command commands ih =>
    rw [List.forall_mem_cons, bestOf]
    cases command.extract sentence now with
    | error failure => simp
    | ok answer =>
      cases answer with
      | none => simp [ih]
      | some e => simp [ih]

/-- Several commands fail with one of them. -/
theorem exists_of_bestOf_eq_error {failure : RecognitionFailure}
    (h : bestOf sentence now best commands = .error failure) :
    ∃ command ∈ commands, command.extract sentence now = .error failure := by
  induction commands generalizing best with
  | nil => cases h
  | cons command commands ih =>
    rw [bestOf] at h
    split at h
    · rename_i hfailure
      cases h
      exact ⟨command, List.mem_cons_self, hfailure⟩
    · obtain ⟨other, hmem, hother⟩ := ih h
      exact ⟨other, List.mem_cons_of_mem _ hmem, hother⟩
    · obtain ⟨other, hmem, hother⟩ := ih h
      exact ⟨other, List.mem_cons_of_mem _ hmem, hother⟩

/-- Commands that answer alike one by one answer alike together. -/
theorem bestOf_congr {sentence' : String} {now' : Timestamp}
    (h : ∀ command ∈ commands, command.extract sentence now = command.extract sentence' now')
    (best : Option Recognition) :
    bestOf sentence now best commands = bestOf sentence' now' best commands := by
  induction commands generalizing best with
  | nil => rfl
  | cons command commands ih =>
    rw [List.forall_mem_cons] at h
    simp only [bestOf, h.1, ih h.2]

end Repertoire

end Utterance
