import Utterance.Proofs.Alternatives
import Utterance.Proofs.Extraction

set_option autoImplicit false

/-!
# Failures at the end of the calendar

A grammar values the time phrases that it has taken even if a later slot does not fit. Near the end
of the calendar such a value may lie behind the end, and then a sentence that has not the shape of
the grammar is answered with a failure. This is the only failure there is: with all the phrases that
have been taken within the calendar, a sentence that does not fit at one time fits at none, and is
answered so.

## Main definitions

* `Utterance.Grammar.StaysWithin`: the times that a grammar has taken are in the calendar.

## Main results

* `Utterance.Grammar.extract_cases`: the answers of a grammar at any time.
* `Utterance.Repertoire.recognize_of_no_match`: the answer to a sentence that fits no grammar.
* `Utterance.Repertoire.no_match_iff_staysWithin`: when it is that nothing has been recognized.
* `Utterance.Repertoire.recognize_tomorrow_at_calendarEnd`: a sentence that is answered so at one
  time, and with a failure at another.
-/

namespace Utterance

open Calendar Text

namespace Grammar

variable {grammar : Grammar} {ws : List String} {now : Timestamp}

/-! ## The answers of a grammar at any time -/

/-- The times that the grammar takes from the words, however far it comes, are in the calendar. -/
def StaysWithin (grammar : Grammar) (ws : List String) (now : Timestamp) : Prop :=
  ∀ segment ∈ (cut grammar.slots ws).segments, segment.WithinCalendar now

/-- With eight days to follow, a grammar never leaves the calendar. -/
lemma staysWithin_of_hasRoom (grammar : Grammar) (ws : List String) (hnow : now.HasRoom) :
    grammar.StaysWithin ws now :=
  fun segment _ => segment.withinCalendar_of_hasRoom hnow

/-- **The answers of a grammar.** Within the calendar it answers by the segmentation of the words;
otherwise the end of the calendar is its answer, whether the words have a segmentation or not. -/
theorem extract_cases (grammar : Grammar) (ws : List String) (now : Timestamp) :
    (grammar.StaysWithin ws now ∧
      ((∃ e, grammar.extract ws now = .ok (some e) ∧
          ∃ segments rest, Segmentation grammar.slots ws segments rest) ∨
        (grammar.extract ws now = .ok none ∧
          ∀ segments rest, ¬ Segmentation grammar.slots ws segments rest))) ∨
    (¬ grammar.StaysWithin ws now ∧ grammar.extract ws now = .error .calendarEnd) := by
  obtain ⟨hwithin, values, hvalues⟩ | ⟨hwithin, herror⟩ :=
    keepAll_cases now .empty (grammar.holdsPhrase_of_mem_cut ws)
  · refine .inl ⟨hwithin, ?_⟩
    obtain ⟨segments, rest, h, hcut⟩ | ⟨hending, hnone⟩ := cut_spec grammar.wellFormed.separable ws
    · rw [hcut] at hvalues
      exact .inl ⟨_, extract_eq_of_keepAll h hvalues, segments, rest, h⟩
    · exact .inr ⟨by simp only [extract, hvalues, hending], hnone⟩
  · exact .inr ⟨hwithin, by simp only [extract, herror]⟩

/-- A grammar fails at the end of the calendar only. -/
theorem eq_calendarEnd_of_extract {failure : RecognitionFailure}
    (h : grammar.extract ws now = .error failure) : failure = .calendarEnd := by
  obtain ⟨-, ⟨e, he, -⟩ | ⟨hnone, -⟩⟩ | ⟨-, herror⟩ := grammar.extract_cases ws now
  · rw [he] at h
    cases h
  · rw [hnone] at h
    cases h
  · rw [herror] at h
    cases h
    rfl

/-- What has no extract has no segmentation, at any time. -/
theorem not_segmentation_of_extract_eq_none (h : grammar.extract ws now = .ok none)
    (segments : List (List String)) (rest : List String) :
    ¬ Segmentation grammar.slots ws segments rest := by
  obtain ⟨-, ⟨e, he, -⟩ | ⟨-, hnone⟩⟩ | ⟨-, herror⟩ := grammar.extract_cases ws now
  · rw [he] at h
    cases h
  · exact hnone segments rest
  · rw [herror] at h
    cases h

/-- A sentence that does not fit at one time does not fit at another, unless the grammar leaves the
calendar there. -/
theorem extract_of_extract_eq_none {earlier : Timestamp}
    (h : grammar.extract ws earlier = .ok none) (now : Timestamp) :
    (grammar.StaysWithin ws now ∧ grammar.extract ws now = .ok none) ∨
      (¬ grammar.StaysWithin ws now ∧ grammar.extract ws now = .error .calendarEnd) := by
  obtain ⟨hwithin, ⟨-, -, segments, rest, hsegments⟩ | ⟨hnone, -⟩⟩ | hend :=
    grammar.extract_cases ws now
  · exact absurd hsegments (not_segmentation_of_extract_eq_none h segments rest)
  · exact .inl ⟨hwithin, hnone⟩
  · exact .inr hend

end Grammar

/-! ## Failures of commands -/

/-- A command fails at the end of the calendar only. -/
theorem Command.eq_calendarEnd_of_extract {command : Command} {sentence : String}
    {now : Timestamp} {failure : RecognitionFailure}
    (h : command.extract sentence now = .error failure) : failure = .calendarEnd := by
  obtain ⟨grammar, -, hgrammar⟩ := exists_of_firstExtract_eq_error h
  exact Grammar.eq_calendarEnd_of_extract hgrammar

/-- A repertoire fails at the end of the calendar only. -/
theorem Repertoire.eq_calendarEnd_of_recognize {r : Repertoire} {sentence : String}
    {now : Timestamp} {failure : RecognitionFailure}
    (h : r.recognize sentence now = .error failure) : failure = .calendarEnd := by
  obtain ⟨command, -, hcommand⟩ := exists_of_bestOf_eq_error h
  exact Command.eq_calendarEnd_of_extract hcommand

/-! ## Sentences that fit no grammar -/

namespace Command

variable {ws : List String}

/-- Grammars that do not fit are passed over, up to the first that leaves the calendar. -/
lemma firstExtract_of_no_match {grammars : List Grammar}
    (h : ∀ grammar ∈ grammars, ∃ earlier, grammar.extract ws earlier = .ok none)
    (now : Timestamp) :
    ((∀ grammar ∈ grammars, grammar.StaysWithin ws now) ∧ firstExtract ws now grammars = .ok none) ∨
      ((¬ ∀ grammar ∈ grammars, grammar.StaysWithin ws now) ∧
        firstExtract ws now grammars = .error .calendarEnd) := by
  induction grammars with
  | nil => exact .inl ⟨by simp, rfl⟩
  | cons grammar grammars ih =>
    rw [List.forall_mem_cons] at h
    simp only [List.forall_mem_cons, firstExtract]
    obtain ⟨earlier, hearlier⟩ := h.1
    obtain ⟨hhead, hnone⟩ | ⟨hhead, herror⟩ := Grammar.extract_of_extract_eq_none hearlier now
    · rw [hnone]
      obtain ⟨htail, hrest⟩ | ⟨htail, hrest⟩ := ih h.2
      · exact .inl ⟨⟨hhead, htail⟩, hrest⟩
      · exact .inr ⟨fun h => htail h.2, hrest⟩
    · rw [herror]
      exact .inr ⟨fun h => hhead h.1, rfl⟩

end Command

namespace Repertoire

/-- Commands that do not fit are passed over, up to the first that leaves the calendar. -/
lemma bestOf_of_no_match {sentence : String} {commands : List Command}
    (h : ∀ command ∈ commands, ∀ grammar ∈ command.grammars,
      ∃ earlier, grammar.extract (words sentence) earlier = .ok none)
    (best : Option Recognition) (now : Timestamp) :
    ((∀ command ∈ commands, ∀ grammar ∈ command.grammars,
        grammar.StaysWithin (words sentence) now) ∧
      bestOf sentence now best commands = .ok best) ∨
    ((¬ ∀ command ∈ commands, ∀ grammar ∈ command.grammars,
        grammar.StaysWithin (words sentence) now) ∧
      bestOf sentence now best commands = .error .calendarEnd) := by
  induction commands with
  | nil => exact .inl ⟨by simp, rfl⟩
  | cons command commands ih =>
    rw [List.forall_mem_cons] at h
    simp only [List.forall_mem_cons, bestOf, Command.extract]
    obtain ⟨hhead, hnone⟩ | ⟨hhead, herror⟩ := Command.firstExtract_of_no_match h.1 now
    · rw [hnone]
      obtain ⟨htail, hrest⟩ | ⟨htail, hrest⟩ := ih h.2
      · exact .inl ⟨⟨hhead, htail⟩, hrest⟩
      · exact .inr ⟨fun h => htail h.2, hrest⟩
    · rw [herror]
      exact .inr ⟨fun h => hhead h.1, rfl⟩

/-- The answer to a sentence that fits no grammar is that nothing has been recognized, or the end of
the calendar when some grammar has taken a time behind it. -/
theorem recognize_of_no_match {r : Repertoire} {sentence : String}
    (h : ∀ command ∈ r.commands, ∀ grammar ∈ command.grammars,
      ∃ earlier, grammar.extract (words (lowercase sentence)) earlier = .ok none)
    (now : Timestamp) :
    ((∀ command ∈ r.commands, ∀ grammar ∈ command.grammars,
        grammar.StaysWithin (words (lowercase sentence)) now) ∧
      r.recognize sentence now = .ok none) ∨
    ((¬ ∀ command ∈ r.commands, ∀ grammar ∈ command.grammars,
        grammar.StaysWithin (words (lowercase sentence)) now) ∧
      r.recognize sentence now = .error .calendarEnd) :=
  bestOf_of_no_match h none now

/-- **When a sentence that does not fit is answered so.** A grammar that does not fit a sentence at
one time does not fit it at another, and says so exactly when it stays within the calendar;
otherwise its answer is the end of the calendar. The same holds of a repertoire of which no grammar
fits. With eight days to follow, every grammar stays within the calendar.

**Proof sketch.** The segmentation of the words does not depend on the time (`extract_cases`), so
all that is left to go wrong are the values of the time phrases that have been taken before the
grammar stops. A repertoire fails with the first of its grammars that does. -/
theorem no_match_iff_staysWithin (sentence : String) (now : Timestamp) :
    (∀ (grammar : Grammar) (earlier : Timestamp),
      grammar.extract (words sentence) earlier = .ok none →
        (grammar.extract (words sentence) now = .ok none ↔
          grammar.StaysWithin (words sentence) now) ∧
        (grammar.extract (words sentence) now = .ok none ∨
          grammar.extract (words sentence) now = .error .calendarEnd)) ∧
    (∀ r : Repertoire,
      (∀ command ∈ r.commands, ∀ grammar ∈ command.grammars,
        ∃ earlier, grammar.extract (words (lowercase sentence)) earlier = .ok none) →
        (r.recognize sentence now = .ok none ↔
          ∀ command ∈ r.commands, ∀ grammar ∈ command.grammars,
            grammar.StaysWithin (words (lowercase sentence)) now) ∧
        (r.recognize sentence now = .ok none ∨
          r.recognize sentence now = .error .calendarEnd)) ∧
    (now.HasRoom → ∀ (grammar : Grammar) (ws : List String), grammar.StaysWithin ws now) := by
  refine ⟨fun grammar earlier h => ?_, fun r h => ?_, fun hnow grammar ws => ?_⟩
  · obtain ⟨hwithin, hnone⟩ | ⟨hwithin, herror⟩ := Grammar.extract_of_extract_eq_none h now
    · simp [hwithin, hnone]
    · simp [hwithin, herror]
  · obtain ⟨hwithin, hnone⟩ | ⟨hwithin, herror⟩ := recognize_of_no_match h now
    · exact ⟨⟨fun _ => hwithin, fun _ => hnone⟩, .inl hnone⟩
    · refine ⟨⟨fun hnone => ?_, fun h => absurd h hwithin⟩, .inr herror⟩
      rw [herror] at hnone
      cases hnone
  · exact grammar.staysWithin_of_hasRoom ws hnow

/-- On the last day but one `tomorrow` alone is no reminder, as on any day before, and is answered
so. -/
theorem recognize_tomorrow_before_calendarEnd :
    timeFirst.extract (words "tomorrow") .lastWithRoom = .ok none ∧
      ∃ now : Timestamp, ¬ now.HasRoom ∧ timeFirst.extract (words "tomorrow") now = .ok none ∧
        timeFirst.StaysWithin (words "tomorrow") now := by
  have hearlier : timeFirst.extract (words "tomorrow") .lastWithRoom = .ok none := rfl
  refine ⟨hearlier, ⟨⟨lastYear, 12, 30, by decide⟩, ⟨10, 15, 0, 0, by decide⟩⟩, by decide, rfl, ?_⟩
  obtain ⟨hiff, -⟩ := (no_match_iff_staysWithin "tomorrow" _).1 timeFirst .lastWithRoom hearlier
  exact hiff.1 rfl

/-- On the last day the same sentence is answered with a failure, by the grammar and by the built-in
commands: the time is taken before the words after it are missed. -/
theorem recognize_tomorrow_at_calendarEnd :
    let now : Timestamp := ⟨.last, ⟨0, 0, 0, 0, by decide⟩⟩
    (timeFirst.extract (words "tomorrow") .lastWithRoom = .ok none ∧
      timeFirst.extract (words "tomorrow") now = .error .calendarEnd) ∧
    (builtin.recognize "tomorrow" .lastWithRoom = .ok none ∧
      builtin.recognize "tomorrow" now = .error .calendarEnd) :=
  ⟨⟨rfl, rfl⟩, rfl, rfl⟩

end Repertoire

end Utterance
