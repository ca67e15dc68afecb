import Mathlib.Tactic.ByContra
import Utterance.Proofs.TimePhrases
import Utterance.Slot.Segment

set_option autoImplicit false

/-!
# The segment of a slot

A slot finds its segment by growing a run word by word and stops at the first run that leads
nowhere. The segment itself can be said without the growing: it is the longest beginning of the
words that the slot takes, wherever the runs before it lead.

## Main definitions

* `Utterance.IsLongestRun`: the longest beginning of some words with a property.
* `Utterance.Slot.Takes`: the segment of a slot at the front of some words.

## Main results

* `Utterance.Slot.isOpen_of_isComplete_append`: growing passes every beginning of a complete run.
* `Utterance.Slot.segment?_eq_some_iff`, `Utterance.Slot.segment?_eq_none_iff`: growing finds the
  segment, and finds none only where there is none.
-/

namespace Utterance

/-! ## Longest beginnings -/

/-- The longest non-empty beginning of `words` with the property `p`. -/
structure IsLongestRun (p : List String → Prop) (words run : List String) : Prop where
  /-- The run has words. -/
  ne_nil : run ≠ []
  /-- The run begins the words. -/
  isPrefix : run <+: words
  /-- The run has the property. -/
  holds : p run
  /-- No other run with the property is longer. -/
  length_le : ∀ other, other ≠ [] → other <+: words → p other → other.length ≤ run.length

namespace IsLongestRun

variable {p q : List String → Prop} {words run : List String} {word : String}

/-- There is one longest run. -/
lemma unique {run' : List String} (h : IsLongestRun p words run) (h' : IsLongestRun p words run') :
    run = run' := by
  have hle := h.length_le run' h'.ne_nil h'.isPrefix h'.holds
  have hge := h'.length_le run h.ne_nil h.isPrefix h.holds
  exact (List.prefix_of_prefix_length_le h.isPrefix h'.isPrefix hge).eq_of_length_le hle

/-- Properties of the same runs have the same longest run. -/
lemma congr (hpq : ∀ run, p run ↔ q run) : IsLongestRun p words run ↔ IsLongestRun q words run := by
  rw [show p = q from funext fun run => propext (hpq run)]

/-- All of the words are the longest run when they have the property themselves. -/
lemma self (hne : words ≠ []) (h : p words) : IsLongestRun p words words :=
  ⟨hne, List.prefix_rfl, h, fun _ _ hother _ => hother.length_le⟩

/-- A run is the longest one when no run that goes on has the property. -/
lemma append {rest : List String} (hne : run ≠ []) (h : p run)
    (hmore : ∀ more, more ≠ [] → more <+: rest → ¬ p (run ++ more)) :
    IsLongestRun p (run ++ rest) run := by
  refine ⟨hne, List.prefix_append _ _, h, fun other _ hother hp => ?_⟩
  obtain hshort | ⟨more, rfl⟩ := List.prefix_or_prefix_of_prefix hother (List.prefix_append _ rest)
  · exact hshort.length_le
  · rw [List.prefix_append_right_inj] at hother
    by_cases hnil : more = []
    · simp [hnil]
    · exact absurd hp (hmore more hnil hother)

/-- One word is the longest run when no run of more words has the property. -/
lemma singleton (h : p [word]) (hmore : ∀ run, run ≠ [] → run <+: words → ¬ p (word :: run)) :
    IsLongestRun p (word :: words) [word] :=
  append (List.cons_ne_nil word []) h hmore

/-- A longest run after a first word is longest with that word in front. -/
lemma cons (h : IsLongestRun (fun run => p (word :: run)) words run) :
    IsLongestRun p (word :: words) (word :: run) := by
  refine ⟨by simp, by simpa using h.isPrefix, h.holds, fun other hne hother hp => ?_⟩
  obtain rfl | ⟨run', rfl, hrun'⟩ := List.prefix_cons_iff.1 hother
  · contradiction
  · by_cases hnil : run' = []
    · simp [hnil]
    · simpa using h.length_le run' hnil hrun' hp

end IsLongestRun

namespace Slot

/-! ## Growing a run -/

/-- A run is rejected when the slot takes neither it nor a longer one. -/
theorem status_eq_rejected_iff {slot : Slot} {run : List String} :
    slot.status run = .rejected ↔ slot.isOpen run = false := by
  unfold status
  by_cases ho : slot.isOpen run = true
  · by_cases hc : slot.isComplete run = true <;> simp [ho, hc]
  · simp [ho]

/-- A slot is open to every beginning of a run that it takes, so growing does not stop before. -/
theorem isOpen_of_isComplete_append {slot : Slot} {run more : List String} (hrun : run ≠ [])
    (h : slot.isComplete (run ++ more) = true) : slot.isOpen run = true := by
  cases slot with
  | fixed phrase =>
    rw [isComplete, beq_iff_eq] at h
    simp [isOpen, h]
  | greedy key => rfl
  | time key =>
    rw [isOpen, Bool.or_eq_true]
    exact RelativeTime.isBegun_or_isSome_of_append hrun h

/-- Growing that finds nothing has passed no complete run. -/
lemma isComplete_eq_false_of_grow? {slot : Slot} {run words : List String}
    (h : slot.grow? run words = none) {more : List String} (hne : more ≠ [])
    (hmore : more <+: words) : slot.isComplete (run ++ more) = false := by
  induction words generalizing run more with
  | nil => exact absurd (List.prefix_nil.1 hmore) hne
  | cons word rest ih =>
    obtain rfl | ⟨more, rfl, hrest⟩ := List.prefix_cons_iff.1 hmore
    · contradiction
    cases hstatus : slot.status (run ++ [word]) with
    | rejected =>
      have hclosed := status_eq_rejected_iff.1 hstatus
      rw [List.append_cons]
      refine Bool.eq_false_iff.2 fun hcomplete => ?_
      rw [isOpen_of_isComplete_append (by simp) hcomplete] at hclosed
      exact Bool.noConfusion hclosed
    | begun =>
      simp only [grow?, hstatus] at h
      rw [List.append_cons]
      by_cases hnil : more = []
      · rw [hnil, List.append_nil, Bool.eq_false_iff, ne_eq, ← status_eq_complete_iff, hstatus]
        simp
      · exact ih h hnil hrest
    | complete => simp [grow?, hstatus] at h

/-- Growing finds the longest complete run. -/
lemma exists_of_grow? {slot : Slot} {run words taken left : List String}
    (h : slot.grow? run words = some (taken, left)) :
    ∃ more, taken = run ++ more ∧ words = more ++ left ∧
      IsLongestRun (fun more => slot.isComplete (run ++ more) = true) words more := by
  induction words generalizing run with
  | nil => simp [grow?] at h
  | cons word rest ih =>
    have hstep : ∀ {more}, IsLongestRun (fun more => slot.isComplete (run ++ [word] ++ more) = true)
        rest more → IsLongestRun (fun more => slot.isComplete (run ++ more) = true) (word :: rest)
          (word :: more) := fun hlongest =>
      .cons ((IsLongestRun.congr fun _ => by simp).1 hlongest)
    cases hstatus : slot.status (run ++ [word]) with
    | rejected => simp [grow?, hstatus] at h
    | begun =>
      simp only [grow?, hstatus] at h
      obtain ⟨more, rfl, rfl, hlongest⟩ := ih h
      exact ⟨word :: more, by simp, by simp, hstep hlongest⟩
    | complete =>
      simp only [grow?, hstatus, Option.or_eq_some_iff] at h
      obtain hmore | ⟨hnone, h⟩ := h
      · obtain ⟨more, rfl, rfl, hlongest⟩ := ih hmore
        exact ⟨word :: more, by simp, by simp, hstep hlongest⟩
      · -- nothing longer is complete, so the word alone is the longest run
        simp only [Option.some.injEq, Prod.mk.injEq] at h
        obtain ⟨rfl, rfl⟩ := h
        refine ⟨[word], rfl, rfl, .singleton (status_eq_complete_iff.1 hstatus) ?_⟩
        intro more hne hmore
        have := isComplete_eq_false_of_grow? hnone hne hmore
        simpa using this

/-- The segment that growing finds is the longest run that the slot takes. -/
theorem isLongestRun_of_segment? {slot : Slot} (hslot : slot.isGreedy = false)
    {words taken left : List String} (h : slot.segment? words = some (taken, left)) :
    IsLongestRun (fun run => slot.isComplete run = true) words taken := by
  rw [segment?, if_neg (by simp [hslot])] at h
  obtain ⟨more, rfl, -, hlongest⟩ := exists_of_grow? h
  exact hlongest

/-- Without a segment no beginning of the words is taken. -/
theorem isComplete_eq_false_of_segment? {slot : Slot} {words : List String}
    (h : slot.segment? words = none) {run : List String} (hne : run ≠ []) (hrun : run <+: words) :
    slot.isComplete run = false := by
  rw [segment?] at h
  split at h
  · simp at h
  · exact isComplete_eq_false_of_grow? h hne hrun

/-! ## Segments -/

/-- The segment of a slot at the front of `words`: the words of a fixed phrase, the longest time
phrase, and for a greedy slot all words. -/
def Takes : Slot → (words taken : List String) → Prop
  | fixed phrase, words, taken => taken = phrase ∧ phrase <+: words
  | greedy _, words, taken => taken = words
  | time _, words, taken =>
    IsLongestRun (fun run => ∃ t, RelativeTime.ofWords? run = some t) words taken

/-- A slot has one segment at the front of some words. -/
lemma Takes.unique {slot : Slot} {words taken taken' : List String} (h : slot.Takes words taken)
    (h' : slot.Takes words taken') : taken = taken' := by
  cases slot with
  | fixed phrase => rw [h.1, h'.1]
  | greedy key => exact h.trans h'.symm
  | time key => exact IsLongestRun.unique h h'

/-- A slot takes words from the beginning. -/
lemma Takes.isPrefix {slot : Slot} {words taken : List String} (h : slot.Takes words taken) :
    taken <+: words := by
  cases slot with
  | fixed phrase => exact h.1 ▸ h.2
  | greedy key =>
    obtain rfl : taken = words := h
    exact List.prefix_rfl
  | time key => exact IsLongestRun.isPrefix h

/-- The segment of a slot that is not greedy is the longest run that the slot takes. -/
lemma takes_iff_isLongestRun {slot : Slot} (hslot : slot.isGreedy = false)
    (hphrase : slot.isEmptyPhrase = false) {words taken : List String} :
    slot.Takes words taken ↔ IsLongestRun (fun run => slot.isComplete run = true) words taken := by
  cases slot with
  | fixed phrase =>
    constructor
    · rintro ⟨rfl, hbegin⟩
      refine ⟨by simpa [isEmptyPhrase] using hphrase, hbegin, by simp [isComplete], ?_⟩
      intro other _ _ hother
      rw [isComplete, beq_iff_eq] at hother
      exact Nat.le_of_eq (congrArg List.length hother.symm)
    · intro h
      have heq : phrase = taken := by simpa [isComplete] using h.holds
      exact ⟨heq.symm, heq ▸ h.isPrefix⟩
  | greedy key => simp [isGreedy] at hslot
  | time key =>
    exact IsLongestRun.congr fun run => by rw [isComplete, Option.isSome_iff_exists]

/-- Growing finds the segment of a slot, or shows that there is none. -/
lemma takes_of_segment? {slot : Slot} (hphrase : slot.isEmptyPhrase = false)
    {words taken left : List String} (h : slot.segment? words = some (taken, left)) :
    slot.Takes words taken := by
  by_cases hslot : slot.isGreedy = true
  · rw [segment?, if_pos hslot] at h
    simp only [Option.some.injEq, Prod.mk.injEq] at h
    cases slot with
    | greedy key => exact h.1.symm
    | fixed phrase => simp [isGreedy] at hslot
    | time key => simp [isGreedy] at hslot
  · rw [Bool.not_eq_true] at hslot
    exact (takes_iff_isLongestRun hslot hphrase).2 (isLongestRun_of_segment? hslot h)

/-- Growing finds no segment only where there is none. -/
theorem segment?_eq_none_iff {slot : Slot} (hphrase : slot.isEmptyPhrase = false)
    {words : List String} : slot.segment? words = none ↔ ∀ taken, ¬ slot.Takes words taken := by
  constructor
  · intro h taken htaken
    have hslot : slot.isGreedy = false := by
      by_contra hgreedy
      rw [Bool.not_eq_false] at hgreedy
      simp [segment?, hgreedy] at h
    have hlongest := (takes_iff_isLongestRun hslot hphrase).1 htaken
    have hcomplete := hlongest.holds
    rw [isComplete_eq_false_of_segment? h hlongest.ne_nil hlongest.isPrefix] at hcomplete
    exact Bool.noConfusion hcomplete
  · intro h
    cases hsegment : slot.segment? words with
    | none => rfl
    | some found => exact absurd (takes_of_segment? hphrase hsegment) (h found.1)

/-- What is known of every segment that growing finds is a description of it, if there is at most
one run like that, and none where growing finds nothing. -/
lemma segment?_eq_some_iff_of_unique {slot : Slot} {p : List String → Prop} {words : List String}
    (hsome : ∀ taken left, slot.segment? words = some (taken, left) → p taken)
    (hunique : ∀ taken taken', p taken → p taken' → taken = taken')
    (hnone : slot.segment? words = none → ∀ taken, ¬ p taken) {taken left : List String} :
    slot.segment? words = some (taken, left) ↔ p taken ∧ taken ++ left = words := by
  constructor
  · intro h
    exact ⟨hsome taken left h, append_of_segment? h⟩
  · rintro ⟨htaken, rfl⟩
    cases hsegment : slot.segment? (taken ++ left) with
    | none => exact absurd htaken (hnone hsegment taken)
    | some found =>
      obtain ⟨taken', left'⟩ := found
      obtain rfl := hunique taken' taken (hsome taken' left' hsegment) htaken
      rw [List.append_cancel_left (append_of_segment? hsegment)]

/-- Growing finds the segment of a slot. -/
theorem segment?_eq_some_iff {slot : Slot} (hphrase : slot.isEmptyPhrase = false)
    {words taken left : List String} :
    slot.segment? words = some (taken, left) ↔ slot.Takes words taken ∧ taken ++ left = words :=
  segment?_eq_some_iff_of_unique (fun _ _ h => takes_of_segment? hphrase h)
    (fun _ _ h h' => h.unique h') (segment?_eq_none_iff hphrase).1

end Slot

end Utterance
