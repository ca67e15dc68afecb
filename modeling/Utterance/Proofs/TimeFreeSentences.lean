import Mathlib.Data.List.Infix
import Utterance.Proofs.Alternatives
import Utterance.Proofs.Extraction

set_option autoImplicit false

/-!
# Sentences that name no time

Whatever the commands, the answer to a sentence without a time phrase is the same at every
reference time, also at the end of the calendar: a time slot takes time phrases only, and the values
of other slots are the words themselves. The same holds of a grammar without time slots.

## Main definitions

* `Utterance.MentionsTime`: some of the words are a time phrase.

## Main results

* `Utterance.Grammar.extract_eq_of_ne_time`: without time slots the reference time has no effect.
* `Utterance.Repertoire.recognize_eq_of_not_mentionsTime`: without a time phrase the reference time
  has no effect.
-/

namespace Utterance

open Calendar Text

/-- Some of the words, one after the other, are a time phrase. -/
def MentionsTime (ws : List String) : Prop :=
  ∃ phrase t, phrase <:+: ws ∧ RelativeTime.ofWords? phrase = some t

/-- A time phrase is sought at the beginnings of the ends of the words. -/
instance (ws : List String) : Decidable (MentionsTime ws) :=
  decidable_of_iff (∃ tail ∈ ws.tails, ∃ phrase ∈ tail.inits,
      (RelativeTime.ofWords? phrase).isSome = true) <| by
    simp only [List.mem_tails, List.mem_inits, Option.isSome_iff_exists]
    constructor
    · rintro ⟨tail, htail, phrase, hphrase, t, ht⟩
      exact ⟨phrase, t, List.infix_iff_prefix_suffix.2 ⟨tail, hphrase, htail⟩, ht⟩
    · rintro ⟨phrase, t, hinfix, ht⟩
      obtain ⟨tail, hphrase, htail⟩ := List.infix_iff_prefix_suffix.1 hinfix
      exact ⟨tail, htail, phrase, hphrase, t, ht⟩

/-- Keeping a segment has the same effect at any time, unless its slot is a time slot. -/
lemma keep_eq_of_ne_time {segment : Segment} (h : ∀ key, segment.slot ≠ .time key)
    (now₁ now₂ : Timestamp) (kept : Bindings) :
    keep now₁ kept segment = keep now₂ kept segment := by
  obtain ⟨slot, run⟩ := segment
  cases slot with
  | fixed phrase => rfl
  | greedy key => rfl
  | time key => exact absurd rfl (h key)

/-- Keeping several segments has the same effect at any time, unless one belongs to a time slot. -/
lemma keepAll_eq_of_ne_time {segments : List Segment}
    (h : ∀ segment ∈ segments, ∀ key, segment.slot ≠ .time key) (now₁ now₂ : Timestamp)
    (kept : Bindings) : keepAll now₁ kept segments = keepAll now₂ kept segments := by
  induction segments generalizing kept with
  | nil => rfl
  | cons segment segments ih =>
    rw [List.forall_mem_cons] at h
    simp only [keepAll, keep_eq_of_ne_time h.1 now₁ now₂ kept, ih h.2]

/-- The words that a cut has taken for a slot stand one after the other in the sentence. -/
lemma infix_of_mem_cut {slots : List Slot} {ws : List String} {segment : Segment}
    (h : segment ∈ (cut slots ws).segments) : segment.words <:+: ws := by
  have htaken : segment.words <:+: (cut slots ws).segments.flatMap Segment.words :=
    List.infix_of_mem_flatten (List.mem_map_of_mem h)
  exact htaken.trans (flatMap_words_cut slots ws).isInfix

variable {ws : List String} {sentence : String}

/-- Where no time phrase is, no time slot has taken any words. -/
lemma ne_time_of_mem_cut {slots : List Slot} (hslots : Separable slots) (h : ¬ MentionsTime ws) :
    ∀ segment ∈ (cut slots ws).segments, ∀ key, segment.slot ≠ .time key := by
  rintro ⟨_, run⟩ hmem key rfl
  obtain ⟨t, ht⟩ := exists_ofWords?_of_mem_cut hslots hmem
  exact h ⟨run, t, infix_of_mem_cut hmem, ht⟩

/-- A grammar answers the same at every time to words without a time phrase. -/
theorem Grammar.extract_eq_of_not_mentionsTime (grammar : Grammar) (h : ¬ MentionsTime ws)
    (now₁ now₂ : Timestamp) : grammar.extract ws now₁ = grammar.extract ws now₂ := by
  have hslots := ne_time_of_mem_cut grammar.wellFormed.separable h
  simp only [extract, keepAll_eq_of_ne_time hslots now₁ now₂]

/-- A grammar without time slots answers the same at every time. -/
theorem Grammar.extract_eq_of_ne_time (grammar : Grammar) (h : ∀ key, .time key ∉ grammar.slots)
    (ws : List String) (now₁ now₂ : Timestamp) :
    grammar.extract ws now₁ = grammar.extract ws now₂ := by
  have hslots : ∀ segment ∈ (cut grammar.slots ws).segments, ∀ key, segment.slot ≠ .time key :=
    fun _ hmem key heq => h key (heq ▸ slot_mem_of_mem_cut hmem)
  simp only [extract, keepAll_eq_of_ne_time hslots now₁ now₂]

/-- A command answers the same at every time to a sentence without a time phrase. -/
theorem Command.extract_eq_of_not_mentionsTime (command : Command)
    (h : ¬ MentionsTime (words sentence)) (now₁ now₂ : Timestamp) :
    command.extract sentence now₁ = command.extract sentence now₂ :=
  firstExtract_congr fun grammar _ => grammar.extract_eq_of_not_mentionsTime h now₁ now₂

/-- **Without a time phrase the reference time has no effect**: a repertoire gives the same answer
at every time, be it a recognition, nothing, or a failure. -/
theorem Repertoire.recognize_eq_of_not_mentionsTime (r : Repertoire)
    (h : ¬ MentionsTime (words (lowercase sentence))) (now₁ now₂ : Timestamp) :
    r.recognize sentence now₁ = r.recognize sentence now₂ :=
  bestOf_congr (fun command _ => command.extract_eq_of_not_mentionsTime h now₁ now₂) none

/-- A question for the weather needs no reference time. -/
example : ¬ MentionsTime (words (lowercase "Show me the weather")) := by decide +kernel

end Utterance
