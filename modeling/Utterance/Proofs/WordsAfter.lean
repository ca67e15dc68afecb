import Utterance.Proofs.Extraction

set_option autoImplicit false

/-!
# Words after the last slot

A sentence that has the shape of a grammar may go on with any words: they are left over. This does
not go without saying, since a time slot looks for the longest time phrase and so sees the words that
come later. It holds for the grammars without greedy slots that end with a fixed phrase, when no time
slot stands before a fixed phrase that begins with `at`. There the words behind a time phrase are
enough to tell that it does not go on.

## Main definitions

* `Utterance.EndsFirmly`: the rows of slots after which more words change nothing.

## Main results

* `Utterance.Slot.takes_time_append`: where a time phrase ends for good.
* `Utterance.Segmentation.append`: the segments stay when words are added.
* `Utterance.Grammar.extract_eq_of_prefix`: the answer stays when words are added.
-/

namespace Utterance

open Calendar Text

/-- A row of slots after which more words change nothing. -/
structure EndsFirmly (slots : List Slot) : Prop where
  /-- No slot is greedy. -/
  isGreedy_eq_false : ∀ slot ∈ slots, slot.isGreedy = false
  /-- The last slot is a fixed phrase. -/
  getLast?_eq : ∃ phrase, slots.getLast? = some (.fixed phrase)
  /-- After a time slot comes another one, or a fixed phrase that does not begin with `at`. -/
  after_time : ∀ front key next later, slots = front ++ .time key :: next :: later →
    (∃ key', next = .time key') ∨ ∃ phrase, next = .fixed phrase ∧ phrase.head? ≠ some "at"

/-! ## Where a time phrase ends -/

section Continuation

variable {run more words after : List String}

/-- A time phrase goes on with two words, of which the first is `at`. -/
lemma exists_eq_at_of_continues (hspace : ∀ w ∈ more, ' ' ∉ w.toList) (hne : more ≠ [])
    (hrun : (RelativeTime.ofWords? run).isSome)
    (hmore : (RelativeTime.ofWords? (run ++ more)).isSome) : ∃ w, more = ["at", w] := by
  obtain ⟨hour, minute, hclock⟩ := RelativeTime.ofWords_eq_clock_of_append hne hrun hmore
  cases more with
  | nil => contradiction
  | cons first more =>
    obtain rfl := RelativeTime.eq_at_of_append (hspace first List.mem_cons_self) hrun hmore
    rw [TimeWord.ofWords_cons_of_notMem (hspace "at" List.mem_cons_self), List.cons.injEq] at hclock
    -- the words after `at` make one clock time, so there is one of them
    cases more with
    | nil => cases hclock.2
    | cons w more =>
      rw [TimeWord.ofWords_cons_of_notMem (hspace w (by simp)), List.cons.injEq] at hclock
      rw [TimeWord.ofWords_eq_nil_iff.1 hclock.2.2]
      exact ⟨w, rfl⟩

/-- Two words at the front of a text that goes on stand in the text itself, unless it is empty or
its only word is the first of them. -/
lemma pair_prefix_of_prefix_append {first w : String} (h : [first, w] <+: after ++ more)
    (hne : after ≠ []) (hfirst : after ≠ [first]) : [first, w] <+: after := by
  rcases after with _ | ⟨a, _ | ⟨b, after⟩⟩
  · contradiction
  · obtain rfl : first = a := (List.cons_prefix_cons.1 h).1
    contradiction
  · exact List.prefix_of_prefix_length_le h (List.prefix_append _ _) (by simp)

/-- **Where a time phrase ends for good.** The segment of a time slot stays when words are added,
provided that the words behind it are some, and are not `at` alone.

**Proof sketch.** A longer phrase would go on with `at` and a clock time
(`exists_eq_at_of_continues`). Both words would stand behind the segment already, and then the
segment would not have been the longest one. -/
theorem Slot.takes_time_append (key : String) (hspace : ∀ w ∈ after ++ more, ' ' ∉ w.toList)
    (hne : after ≠ []) (hat : after ≠ ["at"]) (h : (Slot.time key).Takes (run ++ after) run) :
    (Slot.time key).Takes (run ++ (after ++ more)) run := by
  have hlongest : IsLongestRun _ (run ++ after) run := h
  obtain ⟨t, ht⟩ := hlongest.holds
  refine IsLongestRun.append hlongest.ne_nil ⟨t, ht⟩ ?_
  rintro extra hextra hbegins ⟨t', ht'⟩
  have hrun : (RelativeTime.ofWords? run).isSome := by rw [ht, Option.isSome_some]
  have hlonger : (RelativeTime.ofWords? (run ++ extra)).isSome := by rw [ht', Option.isSome_some]
  obtain ⟨w, rfl⟩ := exists_eq_at_of_continues (fun w hw => hspace w (hbegins.subset hw)) hextra
    hrun hlonger
  have hinside := pair_prefix_of_prefix_append hbegins hne hat
  have hle := hlongest.length_le (run ++ ["at", w]) (List.append_ne_nil_of_right_ne_nil _ hextra)
    ((List.prefix_append_right_inj run).2 hinside) ⟨t', ht'⟩
  simp at hle

end Continuation

/-! ## Segments of a longer sentence -/

section Segmentation

variable {slots row : List Slot} {words more rest : List String} {segments : List (List String)}

/-- The words that begin with the segment of a slot are some, and are not `at` alone, if the slot is
a time slot or a fixed phrase that does not begin with `at`. -/
lemma ne_nil_and_ne_at_of_segmentation {next : Slot} (hslots : Separable (next :: slots))
    (hnext : (∃ key, next = .time key) ∨ ∃ phrase, next = .fixed phrase ∧ phrase.head? ≠ some "at")
    (h : Segmentation (next :: slots) words segments rest) : words ≠ [] ∧ words ≠ ["at"] := by
  obtain ⟨segment, after, _, -, rfl, hfits, -⟩ := Divides.cons_iff.1 h
  obtain ⟨key, rfl⟩ | ⟨phrase, rfl, hat⟩ := hnext
  · have hlongest : IsLongestRun _ (segment ++ after) segment := hfits
    obtain ⟨t, ht⟩ := hlongest.holds
    refine ⟨List.append_ne_nil_of_left_ne_nil hlongest.ne_nil _, fun heq => ?_⟩
    -- the word `at` is no time phrase
    have hsegment : segment = ["at"] := by
      obtain ⟨hnil, -⟩ | ⟨heq, -⟩ := List.append_eq_singleton_iff.1 heq
      · exact absurd hnil hlongest.ne_nil
      · exact heq
    rw [hsegment] at ht
    cases ht
  · have hphrase : phrase ≠ [] := hslots.phrase_ne_nil phrase List.mem_cons_self
    obtain rfl : segment = phrase := hfits.1
    refine ⟨List.append_ne_nil_of_left_ne_nil hphrase _, fun heq => hat ?_⟩
    have hhead : (segment ++ after).head? = some "at" := by rw [heq]; rfl
    rwa [List.head?_append, Option.or_of_isSome (by simpa using hphrase)] at hhead

/-- **The segments stay** when words are added after the sentence, and the words are left over.

**Proof sketch.** Induction on the slots that are still to come, as the end of the whole row. A
fixed phrase has its segment in any case. Behind a time slot there is another slot, since the row
ends with a fixed phrase, and the segment of that slot shows that the time phrase has ended
(`ne_nil_and_ne_at_of_segmentation`, `Slot.takes_time_append`). -/
theorem Segmentation.append (hrow : EndsFirmly row) (front : List Slot)
    (heq : row = front ++ slots) (hslots : Separable slots)
    (hspace : ∀ w ∈ words ++ more, ' ' ∉ w.toList)
    (h : Segmentation slots words segments rest) :
    Segmentation slots (words ++ more) segments (rest ++ more) := by
  induction slots generalizing words segments front with
  | nil =>
    obtain ⟨rfl, rfl⟩ := Divides.nil_iff.1 h
    exact .nil _
  | cons slot slots ih =>
    obtain ⟨segment, after, segments', rfl, rfl, hfits, htail⟩ := Divides.cons_iff.1 h
    rw [List.append_assoc] at hspace ⊢
    have hspace' : ∀ w ∈ after ++ more, ' ' ∉ w.toList := fun w hw =>
      hspace w (List.mem_append_right _ hw)
    refine .cons ?_ (ih (front ++ [slot]) (by simp [heq]) hslots.tail hspace' htail)
    cases slot with
    | fixed phrase => exact ⟨hfits.1, hfits.1 ▸ List.prefix_append _ _⟩
    | greedy key =>
      have hgreedy := hrow.isGreedy_eq_false (.greedy key) (by simp [heq])
      cases hgreedy
    | time key =>
      cases slots with
      | nil =>
        obtain ⟨phrase, hlast⟩ := hrow.getLast?_eq
        rw [heq, List.getLast?_concat] at hlast
        cases hlast
      | cons next later =>
        have hnext := hrow.after_time front key next later heq
        obtain ⟨hne, hat⟩ := ne_nil_and_ne_at_of_segmentation hslots.tail hnext htail
        exact Slot.takes_time_append key hspace' hne hat hfits

/-- Before a fixed `at` more words matter: with them the time phrase takes the `at` for itself. -/
example : (cut [.time "when", .fixed ["at"]] ["tomorrow", "at"]).ending = .finished ∧
    (cut [.time "when", .fixed ["at"]] ["tomorrow", "at", "5pm"]).ending = .stopped := by
  decide

end Segmentation

/-! ## The answers to a longer sentence -/

namespace Grammar

/-- **Words after the last slot are ignored.** A grammar that ends firmly gets the same out of a
sentence and of any sentence that goes on with more words, at every reference time.

**Proof sketch.** The words have a segmentation along the slots, which stays when words are added
(`Segmentation.append`), so both sentences are cut into the same segments. -/
theorem extract_eq_of_prefix {grammar : Grammar} (hslots : EndsFirmly grammar.slots)
    {sentence longer : String} (hwords : words sentence <+: words longer) {now : Timestamp}
    {e : Extract} (he : grammar.extract (words sentence) now = .ok (some e)) :
    grammar.extract (words longer) now = .ok (some e) := by
  obtain ⟨more, hmore⟩ := hwords
  have hseparable := grammar.wellFormed.separable
  obtain ⟨segments, rest, h⟩ := exists_segmentation_of_extract he
  have hspace : ∀ w ∈ words sentence ++ more, ' ' ∉ w.toList := fun w hw =>
    space_notMem_of_mem_words (hmore ▸ hw)
  have hlonger := Segmentation.append hslots [] rfl hseparable hspace h
  rw [extract, cut_of_segmentation hseparable h] at he
  rw [← hmore, extract, cut_of_segmentation hseparable hlonger]
  exact he

/-- Two times before a request, as in `tonight at 5pm call me`. -/
def callBetween : Grammar where
  slots := [.time "from", .time "until", .fixed ["call", "me"]]
  wellFormed := wellFormed_of_firstFault?_eq_none (by decide)

/-- The row ends with a phrase that no greedy slot precedes. -/
lemma endsFirmly_callBetween : EndsFirmly callBetween.slots where
  isGreedy_eq_false := by decide
  getLast?_eq := ⟨["call", "me"], rfl⟩
  after_time front key next later heq := by
    rcases front with _ | ⟨_, _ | ⟨_, _ | ⟨_, front⟩⟩⟩
    · cases heq
      exact .inl ⟨"until", rfl⟩
    · cases heq
      exact .inr ⟨["call", "me"], rfl, by decide⟩
    · cases heq
    · simp [callBetween] at heq

/-- The second time begins with the word that would go on with the first one, and the words that are
added begin with it again. -/
theorem extract_callBetween_longer :
    EndsFirmly callBetween.slots ∧
      words "tonight at 5pm call me" <+: words "tonight at 5pm call me at noon" ∧
      ∃ e, callBetween.extract (words "tonight at 5pm call me") .lastWithRoom = .ok (some e) ∧
        callBetween.extract (words "tonight at 5pm call me at noon") .lastWithRoom =
          .ok (some e) ∧
        e.get? "until" = some (.time
          ⟨⟨lastYear, 12, 23, by decide⟩, ⟨17, 1, 0, 999999999, by decide⟩⟩) := by
  have hwords : words "tonight at 5pm call me" <+: words "tonight at 5pm call me at noon" := by
    decide
  obtain ⟨e, he, huntil⟩ : ∃ e,
      callBetween.extract (words "tonight at 5pm call me") .lastWithRoom = .ok (some e) ∧
        e.get? "until" = some (.time
          ⟨⟨lastYear, 12, 23, by decide⟩, ⟨17, 1, 0, 999999999, by decide⟩⟩) :=
    ⟨_, rfl, by decide⟩
  exact ⟨endsFirmly_callBetween, hwords, e, he,
    extract_eq_of_prefix endsFirmly_callBetween hwords he, huntil⟩

end Grammar

end Utterance
