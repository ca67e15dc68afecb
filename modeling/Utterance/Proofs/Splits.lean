import Utterance.Proofs.Segments
import Utterance.Slot.Split

set_option autoImplicit false

/-!
# The run of a greedy slot

The words of a greedy slot end where the next slot can begin. Trying one place after the other
from the left finds the shortest run after which the next slot has a segment. A last slot has to
take everything after the run, so there the places that leave words over do not count.

## Main definitions

* `Utterance.Slot.TakesAfterRun`: the segment of the slot after a greedy one.
* `Utterance.Slot.IsShortestRun`: the run of a greedy slot.

## Main results

* `Utterance.Slot.isShortestRun_fixed_iff`: the shortest run before a fixed phrase.
* `Utterance.Slot.splitBefore_eq_some_iff`, `Utterance.Slot.splitBefore_eq_none_iff`: trying the
  places from the left finds the shortest run, and finds none only where there is none.
-/

namespace Utterance.Slot

/-- The segment of a slot after a greedy run. A last slot takes all words that follow the run. -/
def TakesAfterRun (next : Slot) (isLast : Bool) (words taken : List String) : Prop :=
  next.Takes words taken ∧ (isLast = true → taken = words)

/-- The shortest non-empty run of `words` after which the slot `next` has a segment. -/
structure IsShortestRun (next : Slot) (isLast : Bool) (words run : List String) : Prop where
  /-- The run has words. -/
  ne_nil : run ≠ []
  /-- The next slot has a segment after the run. -/
  follows : ∃ after taken, run ++ after = words ∧ next.TakesAfterRun isLast after taken
  /-- The next slot has no segment after a shorter run. -/
  length_le : ∀ other after taken, other ≠ [] → other ++ after = words →
    next.TakesAfterRun isLast after taken → run.length ≤ other.length

variable {next : Slot} {isLast : Bool} {words run : List String}

/-- The shortest run begins the words. -/
lemma IsShortestRun.isPrefix (h : next.IsShortestRun isLast words run) : run <+: words := by
  obtain ⟨after, -, hwords, -⟩ := h.follows
  exact ⟨after, hwords⟩

/-- There is one shortest run. -/
lemma IsShortestRun.unique {run' : List String} (h : next.IsShortestRun isLast words run)
    (h' : next.IsShortestRun isLast words run') : run = run' := by
  obtain ⟨after, taken, hwords, htaken⟩ := h.follows
  obtain ⟨after', taken', hwords', htaken'⟩ := h'.follows
  have hle := h.length_le run' after' taken' h'.ne_nil hwords' htaken'
  have hge := h'.length_le run after taken h.ne_nil hwords htaken
  exact (List.prefix_of_prefix_length_le h.isPrefix h'.isPrefix hle).eq_of_length_le hge

/-- A slot that is not greedy has no segment where there are no words. -/
lemma Takes.words_ne_nil {taken : List String} (hslot : next.isGreedy = false)
    (hphrase : next.isEmptyPhrase = false) (h : next.Takes words taken) : words ≠ [] := by
  rintro rfl
  have hlongest := (takes_iff_isLongestRun hslot hphrase).1 h
  exact hlongest.ne_nil (List.prefix_nil.1 hlongest.isPrefix)

/-! ## Runs before a fixed phrase -/

section FixedPhrase

variable {phrase after : List String}

/-- Before a fixed phrase a run is the shortest one when the phrase comes after it and begins at no
place before. -/
theorem isShortestRun_fixed_iff : (fixed phrase).IsShortestRun false (run ++ after) run ↔
    run ≠ [] ∧ phrase <+: after ∧
      ∀ i, 1 ≤ i → i < run.length → ¬ phrase <+: (run ++ after).drop i := by
  constructor
  · intro h
    obtain ⟨after', taken, hwords, ⟨-, hbegins⟩, -⟩ := h.follows
    obtain rfl := List.append_cancel_left hwords
    refine ⟨h.ne_nil, hbegins, fun i hpos hlt hearly => ?_⟩
    -- the words up to the earlier place would be a shorter run
    have hlength : ((run ++ after').take i).length = i := by
      rw [List.length_take, List.length_append]
      omega
    have hle := h.length_le ((run ++ after').take i) ((run ++ after').drop i) phrase
      (List.ne_nil_of_length_pos (by omega)) (List.take_append_drop i _)
      ⟨⟨rfl, hearly⟩, Bool.noConfusion⟩
    omega
  · rintro ⟨hne, hbegins, hearly⟩
    refine ⟨hne, ⟨after, phrase, rfl, ⟨rfl, hbegins⟩, Bool.noConfusion⟩, ?_⟩
    rintro other after' _ hother hwords ⟨⟨rfl, hbegins'⟩, -⟩
    by_contra hlt
    refine hearly other.length (List.length_pos_iff.2 hother) (Nat.not_le.1 hlt) ?_
    rwa [← hwords, List.drop_left]

/-- Before a last fixed phrase, which has to end the words, there is one run only. -/
lemma isShortestRun_last_fixed (hne : run ≠ []) :
    (fixed phrase).IsShortestRun true (run ++ phrase) run := by
  refine ⟨hne, ⟨phrase, phrase, rfl, ⟨rfl, List.prefix_rfl⟩, fun _ => rfl⟩, ?_⟩
  rintro other after' _ - hwords ⟨⟨rfl, -⟩, hlast⟩
  rw [← hlast rfl] at hwords
  exact Nat.le_of_eq (congrArg List.length (List.append_cancel_right hwords).symm)

end FixedPhrase

/-! ## Trying the places from the left -/

section FirstSplit

variable (hslot : next.isGreedy = false) (hphrase : next.isEmptyPhrase = false)

include hphrase in
/-- A place where the next slot has no segment is passed over. -/
lemma firstSplit?_cons_of_not_takes {word : String}
    (h : ∀ taken, ¬ next.TakesAfterRun isLast (word :: words) taken) :
    next.firstSplit? isLast run (word :: words) =
      next.firstSplit? isLast (run ++ [word]) words := by
  rw [firstSplit?]
  split
  · rename_i segment rest hsegment
    obtain ⟨htakes, hwords⟩ := (segment?_eq_some_iff hphrase).1 hsegment
    have hrest : isLast = true ∧ rest ≠ [] := by
      by_contra hcontra
      refine h segment ⟨htakes, fun hlast => ?_⟩
      have hnil : rest = [] := by
        by_contra hne
        exact hcontra ⟨hlast, hne⟩
      rw [← hwords, hnil, List.append_nil]
    rw [if_pos (by simpa using hrest)]
  · rfl

include hphrase in
/-- The first place where the next slot has a segment ends the run. -/
lemma firstSplit?_cons_of_takes {word : String} {taken rest : List String}
    (hwords : taken ++ rest = word :: words)
    (h : next.TakesAfterRun isLast (word :: words) taken) :
    next.firstSplit? isLast run (word :: words) = some ⟨run, taken, rest⟩ := by
  have hsegment := (segment?_eq_some_iff hphrase).2 ⟨h.1, hwords⟩
  rw [firstSplit?, hsegment]
  refine if_neg ?_
  rw [Bool.and_eq_true, Bool.not_eq_true', List.isEmpty_eq_false_iff]
  rintro ⟨hlast, hne⟩
  have hall := h.2 hlast
  rw [← hwords] at hall
  exact hne (List.self_eq_append_right.1 hall)

include hslot hphrase in
/-- Trying all places in vain shows that the next slot has no segment at any of them. -/
lemma not_takesAfterRun_of_firstSplit? (h : next.firstSplit? isLast run words = none)
    {more after taken : List String} (hwords : more ++ after = words) :
    ¬ next.TakesAfterRun isLast after taken := by
  induction words generalizing run more with
  | nil =>
    intro htaken
    exact htaken.1.words_ne_nil hslot hphrase (List.append_eq_nil_iff.1 hwords).2
  | cons word words ih =>
    by_cases htakes : ∃ taken, next.TakesAfterRun isLast (word :: words) taken
    · obtain ⟨taken, htaken⟩ := htakes
      obtain ⟨rest, hrest⟩ := htaken.1.isPrefix
      rw [firstSplit?_cons_of_takes hphrase hrest htaken] at h
      cases h
    · rw [not_exists] at htakes
      rw [firstSplit?_cons_of_not_takes hphrase htakes] at h
      cases more with
      | nil =>
        rw [List.nil_append] at hwords
        exact hwords ▸ htakes taken
      | cons w more => exact ih h (List.cons.inj hwords).2

include hphrase in
/-- The place that is found is the first one where the next slot has a segment. -/
lemma exists_of_firstSplit? {split : Split} (h : next.firstSplit? isLast run words = some split) :
    ∃ more, split.run = run ++ more ∧ more ++ (split.segment ++ split.rest) = words ∧
      next.TakesAfterRun isLast (split.segment ++ split.rest) split.segment ∧
      ∀ other after taken, other ++ after = words → next.TakesAfterRun isLast after taken →
        more.length ≤ other.length := by
  induction words generalizing run with
  | nil => simp [firstSplit?] at h
  | cons word words ih =>
    by_cases htakes : ∃ taken, next.TakesAfterRun isLast (word :: words) taken
    · obtain ⟨taken, htaken⟩ := htakes
      obtain ⟨rest, hrest⟩ := htaken.1.isPrefix
      rw [firstSplit?_cons_of_takes hphrase hrest htaken, Option.some.injEq] at h
      subst h
      exact ⟨[], by simp, hrest, hrest ▸ htaken, fun _ _ _ _ _ => Nat.zero_le _⟩
    · rw [not_exists] at htakes
      rw [firstSplit?_cons_of_not_takes hphrase htakes] at h
      obtain ⟨more, hrun, hwords, hsegment, hfirst⟩ := ih h
      refine ⟨word :: more, by simp [hrun], by simp [hwords], hsegment, ?_⟩
      intro other after taken hother htaken
      cases other with
      | nil =>
        rw [List.nil_append] at hother
        exact absurd (hother ▸ htaken) (htakes taken)
      | cons w other =>
        have := hfirst other after taken (List.cons.inj hother).2 htaken
        simpa using this

end FirstSplit

/-! ## The split before a slot -/

/-- The three parts of a split are the words given. -/
lemma append_of_splitBefore {split : Split}
    (h : next.splitBefore isLast words = .ok (some split)) :
    split.run ++ split.segment ++ split.rest = words := by
  unfold splitBefore at h
  split at h
  · cases h
  · cases h
  · rw [Except.ok.injEq] at h
    exact append_of_firstSplit? h

section SplitBefore

variable (hslot : next.isGreedy = false) (hphrase : next.isEmptyPhrase = false)

include hslot in
/-- Before a slot that is not greedy the first word starts the run. -/
lemma splitBefore_cons (isLast : Bool) (word : String) (words : List String) :
    next.splitBefore isLast (word :: words) = .ok (next.firstSplit? isLast [word] words) := by
  cases next with
  | greedy key => simp [isGreedy] at hslot
  | fixed phrase => rfl
  | time key => rfl

include hslot in
/-- Without words there is no run. -/
lemma splitBefore_nil (isLast : Bool) : next.splitBefore isLast [] = .ok none := by
  cases next with
  | greedy key => simp [isGreedy] at hslot
  | fixed phrase => rfl
  | time key => rfl

include hslot in
/-- Before a slot that is not greedy splitting never fails. -/
lemma exists_splitBefore (isLast : Bool) (words : List String) :
    ∃ found, next.splitBefore isLast words = .ok found := by
  cases words with
  | nil => exact ⟨none, splitBefore_nil hslot isLast⟩
  | cons word words => exact ⟨_, splitBefore_cons hslot isLast word words⟩

include hslot hphrase in
/-- The split that is found is the one after the shortest run. -/
lemma isShortestRun_of_splitBefore {split : Split}
    (h : next.splitBefore isLast words = .ok (some split)) :
    next.IsShortestRun isLast words split.run ∧
      next.TakesAfterRun isLast (split.segment ++ split.rest) split.segment ∧
      split.run ++ (split.segment ++ split.rest) = words := by
  cases words with
  | nil => simp [splitBefore_nil hslot] at h
  | cons word words =>
    rw [splitBefore_cons hslot, Except.ok.injEq] at h
    obtain ⟨more, hrun, rfl, hsegment, hfirst⟩ := exists_of_firstSplit? hphrase h
    rw [hrun]
    refine ⟨⟨by simp, ⟨_, _, rfl, hsegment⟩, ?_⟩, hsegment, rfl⟩
    intro other after taken hne hother htaken
    cases other with
    | nil => contradiction
    | cons w other =>
      have := hfirst other after taken (List.cons.inj hother).2 htaken
      simpa using this

include hslot hphrase in
/-- No split is found exactly when the next slot has no segment after any run. -/
theorem splitBefore_eq_none_iff :
    next.splitBefore isLast words = .ok none ↔
      ∀ run after taken, run ≠ [] → run ++ after = words →
        ¬ next.TakesAfterRun isLast after taken := by
  constructor
  · intro h run after taken hne hwords
    cases words with
    | nil => exact absurd (List.append_eq_nil_iff.1 hwords).1 hne
    | cons word words =>
      rw [splitBefore_cons hslot, Except.ok.injEq] at h
      cases run with
      | nil => contradiction
      | cons w more =>
        exact not_takesAfterRun_of_firstSplit? hslot hphrase h (List.cons.inj hwords).2
  · intro h
    obtain ⟨found, hfound⟩ := exists_splitBefore hslot isLast words
    cases found with
    | none => exact hfound
    | some split =>
      obtain ⟨hrun, hsegment, hwords⟩ := isShortestRun_of_splitBefore hslot hphrase hfound
      exact absurd hsegment (h split.run _ _ hrun.ne_nil hwords)

include hslot hphrase in
/-- The split that is found is the one after the shortest run, and the only such split. -/
theorem splitBefore_eq_some_iff {split : Split} :
    next.splitBefore isLast words = .ok (some split) ↔
      next.IsShortestRun isLast words split.run ∧
        next.TakesAfterRun isLast (split.segment ++ split.rest) split.segment ∧
        split.run ++ (split.segment ++ split.rest) = words := by
  refine ⟨isShortestRun_of_splitBefore hslot hphrase, ?_⟩
  rintro ⟨hrun, hsegment, hwords⟩
  obtain ⟨found, hfound⟩ := exists_splitBefore hslot isLast words
  cases found with
  | none =>
    exact absurd hsegment
      ((splitBefore_eq_none_iff hslot hphrase).1 hfound _ _ _ hrun.ne_nil hwords)
  | some split' =>
    obtain ⟨hrun', hsegment', hwords'⟩ := isShortestRun_of_splitBefore hslot hphrase hfound
    obtain ⟨run, segment, rest⟩ := split
    obtain ⟨run', segment', rest'⟩ := split'
    dsimp only at *
    obtain rfl := hrun.unique hrun'
    have hafter := List.append_cancel_left (hwords'.trans hwords.symm)
    obtain rfl := hsegment'.1.unique (hafter ▸ hsegment.1)
    obtain rfl := List.append_cancel_left hafter
    exact hfound

end SplitBefore

end Utterance.Slot
