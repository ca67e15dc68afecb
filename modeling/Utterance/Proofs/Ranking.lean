import Utterance.Proofs.Alternatives
import Utterance.Proofs.CalendarEnd

set_option autoImplicit false

/-!
# The best command

Of the commands that fit a sentence the best one is recognized, and the earliest among equals. A
command is as good as the first of its grammars that fits, even if a later one would do better.

The best command is looked for from left to right, so the invariant is about the commands seen so
far: those before the best one are worse, and those after it are not better.

## Main definitions

* `Utterance.Recognition.IsEarliestBest`: a recognition is that of the earliest best command.
* `Utterance.Repertoire.IsBest`: what is best among some commands, if any of them fits.

## Main results

* `Utterance.Repertoire.IsBest.append_some`, `Utterance.Repertoire.exists_bestOf_isBest`: one more
  command, and all of them.
* `Utterance.Repertoire.recognize_iff_isEarliestBest`: the command that is recognized.
-/

namespace Utterance

open Calendar Text

/-! ## Commands that answer -/

/-- A command that does not fail at the end of the calendar does not fail. -/
theorem Command.exists_extract_of_ne_calendarEnd {command : Command} {sentence : String}
    {now : Timestamp} (h : command.extract sentence now ≠ .error .calendarEnd) :
    ∃ answer, command.extract sentence now = .ok answer := by
  cases hextract : command.extract sentence now with
  | ok answer => exact ⟨answer, rfl⟩
  | error failure =>
    rw [hextract, eq_calendarEnd_of_extract hextract] at h
    contradiction

/-! ## The earliest of the best commands -/

/-- The recognition is that of the command at place `i`, by the first of its grammars that fits.
Commands before it are worse, and commands after it are not better. -/
structure Recognition.IsEarliestBest (a : Recognition) (sentence : String) (now : Timestamp)
    (commands : List Command) (i : Nat) : Prop where
  /-- The command stands at its place. -/
  getElem?_eq : commands[i]? = some a.command
  /-- The extract is that of the first grammar that fits. -/
  exists_grammar : ∃ front grammar back, a.command.grammars = front ++ grammar :: back ∧
    (∀ other ∈ front, other.extract (words sentence) now = .ok none) ∧
    grammar.extract (words sentence) now = .ok (some a.extract)
  /-- A command before it that fits has a lower rank. -/
  rank_lt : ∀ j command e, j < i → commands[j]? = some command →
    command.extract sentence now = .ok (some e) → e.quality.rank < a.extract.quality.rank
  /-- A command after it that fits has no higher rank. -/
  rank_le : ∀ j command e, i < j → commands[j]? = some command →
    command.extract sentence now = .ok (some e) → e.quality.rank ≤ a.extract.quality.rank

namespace Recognition.IsEarliestBest

variable {sentence : String} {now : Timestamp} {commands : List Command} {command : Command}
  {e : Extract} {a b : Recognition} {i j : Nat}

/-- The extract is that of the command. -/
lemma extract_eq (h : a.IsEarliestBest sentence now commands i) :
    a.command.extract sentence now = .ok (some a.extract) :=
  Command.firstExtract_eq_some_iff.2 h.exists_grammar

/-- The earliest best command is one of the commands. -/
lemma lt_length (h : a.IsEarliestBest sentence now commands i) : i < commands.length :=
  (List.getElem?_eq_some_iff.1 h.getElem?_eq).1

/-- Of two earliest best commands neither comes first. -/
lemma le_of_isEarliestBest (ha : a.IsEarliestBest sentence now commands i)
    (hb : b.IsEarliestBest sentence now commands j) : j ≤ i := by
  by_contra hlt
  have hab := hb.rank_lt i a.command a.extract (by omega) ha.getElem?_eq ha.extract_eq
  have hba := ha.rank_le j b.command b.extract (by omega) hb.getElem?_eq hb.extract_eq
  omega

/-- There is one earliest best command. -/
lemma unique (ha : a.IsEarliestBest sentence now commands i)
    (hb : b.IsEarliestBest sentence now commands j) : a = b := by
  obtain rfl : i = j := Nat.le_antisymm (hb.le_of_isEarliestBest ha) (ha.le_of_isEarliestBest hb)
  have hcommand : a.command = b.command :=
    Option.some.inj (ha.getElem?_eq.symm.trans hb.getElem?_eq)
  have hextract := ha.extract_eq
  rw [hcommand, hb.extract_eq, Except.ok.injEq, Option.some.injEq] at hextract
  obtain ⟨_, _⟩ := a
  obtain ⟨_, _⟩ := b
  dsimp only at hcommand hextract
  rw [hcommand, hextract]

/-- A command that is not better changes nothing when it comes last. -/
lemma append (h : a.IsEarliestBest sentence now commands i)
    (hle : ∀ e, command.extract sentence now = .ok (some e) →
      e.quality.rank ≤ a.extract.quality.rank) :
    a.IsEarliestBest sentence now (commands ++ [command]) i := by
  have hlength := h.lt_length
  refine ⟨?_, h.exists_grammar, fun j other e hlt hother he => ?_, fun j other e hlt hother he => ?_⟩
  · rw [List.getElem?_append_left hlength, h.getElem?_eq]
  · rw [List.getElem?_append_left (by omega)] at hother
    exact h.rank_lt j other e hlt hother he
  · by_cases hj : j < commands.length
    · rw [List.getElem?_append_left hj] at hother
      exact h.rank_le j other e hlt hother he
    · rw [List.getElem?_append_right (by omega), List.getElem?_singleton] at hother
      split at hother
      · obtain rfl := Option.some.inj hother
        exact hle e he
      · cases hother

/-- No command that fits has a higher rank. -/
lemma rank_le_of_extract (h : a.IsEarliestBest sentence now commands i)
    (hmem : command ∈ commands) (he : command.extract sentence now = .ok (some e)) :
    e.quality.rank ≤ a.extract.quality.rank := by
  obtain ⟨j, hj⟩ := List.mem_iff_getElem?.1 hmem
  obtain hlt | rfl | hlt := Nat.lt_trichotomy j i
  · exact Nat.le_of_lt (h.rank_lt j command e hlt hj he)
  · obtain rfl : command = a.command := Option.some.inj (hj.symm.trans h.getElem?_eq)
    rw [h.extract_eq, Except.ok.injEq, Option.some.injEq] at he
    exact Nat.le_of_eq (by rw [he])
  · exact h.rank_le j command e hlt hj he

/-- A command that is better than all others is the earliest best when it comes last. -/
lemma append_self (he : command.extract sentence now = .ok (some e))
    (hlt : ∀ other ∈ commands, ∀ e', other.extract sentence now = .ok (some e') →
      e'.quality.rank < e.quality.rank) :
    (⟨command, e⟩ : Recognition).IsEarliestBest sentence now (commands ++ [command])
      commands.length := by
  refine ⟨by simp, Command.firstExtract_eq_some_iff.1 he, fun j other e' hj hother he' => ?_,
    fun j other e' hj hother _ => ?_⟩
  · rw [List.getElem?_append_left hj] at hother
    exact hlt other (List.mem_of_getElem? hother) e' he'
  · rw [List.getElem?_eq_none (by simp; omega)] at hother
    cases hother

end Recognition.IsEarliestBest

/-! ## Looking for the best command -/

namespace Repertoire

/-- The best among some commands: nothing when no command fits, else the earliest best. -/
def IsBest (sentence : String) (now : Timestamp) (commands : List Command) :
    Option Recognition → Prop
  | none => ∀ command ∈ commands, command.extract sentence now = .ok none
  | some a => ∃ i, a.IsEarliestBest sentence now commands i

variable {sentence : String} {now : Timestamp} {commands seen : List Command} {command : Command}
  {best best' : Option Recognition} {e : Extract}

/-- Some commands have one best among them. -/
lemma IsBest.unique (h : IsBest sentence now commands best)
    (h' : IsBest sentence now commands best') : best = best' := by
  -- a command that fits is not among commands that do not
  have hne : ∀ {a : Recognition} {i : Nat}, a.IsEarliestBest sentence now commands i →
      ¬ ∀ command ∈ commands, command.extract sentence now = .ok none := by
    intro a i ha hnone
    have hfits := hnone _ (List.mem_of_getElem? ha.getElem?_eq)
    rw [ha.extract_eq] at hfits
    cases hfits
  cases best with
  | none =>
    cases best' with
    | none => rfl
    | some b =>
      obtain ⟨i, hb⟩ := h'
      exact absurd h (hne hb)
  | some a =>
    obtain ⟨i, ha⟩ := h
    cases best' with
    | none => exact absurd h' (hne ha)
    | some b =>
      obtain ⟨j, hb⟩ := h'
      rw [ha.unique hb]

/-- A command that does not fit leaves the best as it was. -/
lemma IsBest.append_none (h : IsBest sentence now seen best)
    (hnone : command.extract sentence now = .ok none) :
    IsBest sentence now (seen ++ [command]) best := by
  cases best with
  | none => exact List.forall_mem_append.2 ⟨h, by simpa using hnone⟩
  | some a =>
    obtain ⟨i, ha⟩ := h
    exact ⟨i, ha.append fun e he => by rw [hnone] at he; cases he⟩

/-- A command that fits becomes the best if it is better than the best before it. -/
lemma IsBest.append_some (h : IsBest sentence now seen best)
    (he : command.extract sentence now = .ok (some e)) :
    IsBest sentence now (seen ++ [command]) (some (better best ⟨command, e⟩)) := by
  cases best with
  | none =>
    refine ⟨seen.length, .append_self he fun other hmem e' he' => ?_⟩
    rw [h other hmem] at he'
    cases he'
  | some a =>
    obtain ⟨i, ha⟩ := h
    rw [better]
    split
    · rename_i houtranks
      have hlt : a.extract.quality.rank < e.quality.rank := by
        simpa [Recognition.outranks] using houtranks
      refine ⟨seen.length, .append_self he fun other hmem e' he' => ?_⟩
      exact Nat.lt_of_le_of_lt (ha.rank_le_of_extract hmem he') hlt
    · rename_i houtranks
      have hle : e.quality.rank ≤ a.extract.quality.rank := by
        simpa [Recognition.outranks] using houtranks
      refine ⟨i, ha.append fun e' he' => ?_⟩
      rw [he, Except.ok.injEq, Option.some.injEq] at he'
      rwa [← he']

/-- **The best so far becomes the best of all**, if every command answers.

**Proof sketch.** Induction on the commands that are left; the commands seen so far grow by one at
each step. -/
theorem exists_bestOf_isBest (h : IsBest sentence now seen best)
    (hall : ∀ command ∈ commands, ∃ answer, command.extract sentence now = .ok answer) :
    ∃ answer, bestOf sentence now best commands = .ok answer ∧
      IsBest sentence now (seen ++ commands) answer := by
  induction commands generalizing seen best with
  | nil => exact ⟨best, rfl, by rwa [List.append_nil]⟩
  | cons command commands ih =>
    rw [List.forall_mem_cons] at hall
    obtain ⟨⟨answer, hanswer⟩, hrest⟩ := hall
    rw [bestOf, hanswer, List.append_cons]
    cases answer with
    | none => exact ih (h.append_none hanswer) hrest
    | some e => exact ih (h.append_some hanswer) hrest

section Recognize

variable {r : Repertoire}
  (hall : ∀ command ∈ r.commands, command.extract (lowercase sentence) now ≠ .error .calendarEnd)

include hall in
/-- A repertoire recognizes the best of its commands. -/
lemma exists_recognize_isBest : ∃ best, r.recognize sentence now = .ok best ∧
    IsBest (lowercase sentence) now r.commands best := by
  have hempty : IsBest (lowercase sentence) now [] none := by simp [IsBest]
  have hanswers : ∀ command ∈ r.commands,
      ∃ answer, command.extract (lowercase sentence) now = .ok answer :=
    fun command hmem => Command.exists_extract_of_ne_calendarEnd (hall command hmem)
  exact exists_bestOf_isBest hempty hanswers

include hall in
/-- What is recognized is the best of all commands, and nothing else. -/
lemma recognize_eq_ok_iff :
    r.recognize sentence now = .ok best ↔ IsBest (lowercase sentence) now r.commands best := by
  obtain ⟨answer, hanswer, hbest⟩ := exists_recognize_isBest hall
  rw [hanswer, Except.ok.injEq]
  constructor
  · rintro rfl
    exact hbest
  · exact hbest.unique

variable (hcommand : command.extract (lowercase sentence) now ≠ .error .calendarEnd)

include hall hcommand in
/-- A command that is added last and does not fit changes nothing. -/
lemma recognize_add_of_none (hbest : r.recognize sentence now = .ok best)
    (hnone : command.extract (lowercase sentence) now = .ok none) :
    (r.add command).recognize sentence now = .ok best := by
  have hall' : ∀ other ∈ (r.add command).commands,
      other.extract (lowercase sentence) now ≠ .error .calendarEnd :=
    List.forall_mem_append.2 ⟨hall, by simpa using hcommand⟩
  exact (recognize_eq_ok_iff hall').2 (((recognize_eq_ok_iff hall).1 hbest).append_none hnone)

include hall hcommand in
/-- A command that is added last and fits is recognized if it is better. -/
lemma recognize_add_of_some (hbest : r.recognize sentence now = .ok best)
    (he : command.extract (lowercase sentence) now = .ok (some e)) :
    (r.add command).recognize sentence now = .ok (some (better best ⟨command, e⟩)) := by
  have hall' : ∀ other ∈ (r.add command).commands,
      other.extract (lowercase sentence) now ≠ .error .calendarEnd :=
    List.forall_mem_append.2 ⟨hall, by simpa using hcommand⟩
  exact (recognize_eq_ok_iff hall').2 (((recognize_eq_ok_iff hall).1 hbest).append_some he)

end Recognize

/-- **The command that is recognized** is the earliest of the best, with the extract of the first of
its grammars that fits; nothing is recognized exactly when no command fits. One more command at the
end changes the answer exactly if it fits and nothing has been recognized before, or something of a
lower rank; then it is recognized itself.

**Proof sketch.** The commands seen so far have one best among them (`IsBest.unique`), and looking at
one more keeps the account of it (`IsBest.append_none`, `IsBest.append_some`). A command that does
not fail at the end of the calendar answers, so the look goes through all of them
(`exists_bestOf_isBest`). -/
theorem recognize_iff_isEarliestBest (r : Repertoire) (sentence : String) (now : Timestamp)
    (hall : ∀ command ∈ r.commands,
      command.extract (lowercase sentence) now ≠ .error .calendarEnd) :
    (∃ answer, r.recognize sentence now = .ok answer) ∧
    (r.recognize sentence now = .ok none ↔
      ∀ command ∈ r.commands, command.extract (lowercase sentence) now = .ok none) ∧
    (∀ a, r.recognize sentence now = .ok (some a) ↔
      ∃ i, a.IsEarliestBest (lowercase sentence) now r.commands i) ∧
    (∀ command : Command, command.extract (lowercase sentence) now ≠ .error .calendarEnd →
      ((r.add command).recognize sentence now ≠ r.recognize sentence now →
        ∃ e, command.extract (lowercase sentence) now = .ok (some e) ∧
          (r.recognize sentence now = .ok none ∨
            ∃ a, r.recognize sentence now = .ok (some a) ∧
              a.extract.quality.rank < e.quality.rank)) ∧
      (∀ e, command.extract (lowercase sentence) now = .ok (some e) →
        (r.recognize sentence now = .ok none ∨
          ∃ a, r.recognize sentence now = .ok (some a) ∧
            a.extract.quality.rank < e.quality.rank) →
        (r.add command).recognize sentence now = .ok (some ⟨command, e⟩))) := by
  obtain ⟨best, hbest, -⟩ := exists_recognize_isBest hall
  refine ⟨⟨best, hbest⟩, recognize_eq_ok_iff hall, fun a => recognize_eq_ok_iff hall,
    fun command hcommand => ⟨fun hne => ?_, fun e he hlower => ?_⟩⟩
  · obtain ⟨answer, hanswer⟩ := Command.exists_extract_of_ne_calendarEnd hcommand
    cases answer with
    | none => exact absurd ((recognize_add_of_none hall hcommand hbest hanswer).trans hbest.symm) hne
    | some e =>
      refine ⟨e, hanswer, ?_⟩
      have hadd := recognize_add_of_some hall hcommand hbest hanswer
      cases best with
      | none => exact .inl hbest
      | some a =>
        refine .inr ⟨a, hbest, ?_⟩
        by_contra hnot
        have hstays : better (some a) ⟨command, e⟩ = a := by
          simp [better, Recognition.outranks, hnot]
        exact hne (hadd.trans (by rw [hstays, hbest]))
  · rw [recognize_add_of_some hall hcommand hbest he]
    obtain hnone | ⟨a, ha, hlt⟩ := hlower
    · obtain rfl : best = none := by simpa [hbest] using hnone
      rfl
    · obtain rfl : best = some a := by simpa [hbest] using ha
      simp [better, Recognition.outranks, hlt]

/-- A command that takes down any words is better than the question for the weather. -/
theorem recognize_weather_with_note :
    ∃ note : Command,
      (∀ command ∈ builtin.commands,
        command.extract (lowercase "Show me the weather") .lastWithRoom ≠ .error .calendarEnd) ∧
      note.extract (lowercase "Show me the weather") .lastWithRoom ≠ .error .calendarEnd ∧
      builtin.recognize "Show me the weather" .lastWithRoom = .ok (some ⟨.weather, .noData⟩) ∧
      (builtin.add note).recognize "Show me the weather" .lastWithRoom =
        .ok (some ⟨note, .data (Bindings.empty.insert "text"
          (.words ["show", "me", "the", "weather"]))⟩) := by
  let note : Command :=
    ⟨"note", [⟨[.greedy "text"], wellFormed_of_firstFault?_eq_none (by decide)⟩],
      by decide, by decide⟩
  have hreminder : Command.reminder.extract (lowercase "Show me the weather") .lastWithRoom =
      .ok none := rfl
  have hweather : Command.weather.extract (lowercase "Show me the weather") .lastWithRoom =
      .ok (some .noData) := rfl
  have hnote : note.extract (lowercase "Show me the weather") .lastWithRoom =
      .ok (some (.data (Bindings.empty.insert "text"
        (.words ["show", "me", "the", "weather"])))) := rfl
  have hall : ∀ command ∈ builtin.commands,
      command.extract (lowercase "Show me the weather") .lastWithRoom ≠ .error .calendarEnd := by
    simp [builtin, hreminder, hweather]
  have hcommand : note.extract (lowercase "Show me the weather") .lastWithRoom ≠
      .error .calendarEnd := by
    simp [hnote]
  have hbefore : builtin.recognize "Show me the weather" .lastWithRoom =
      .ok (some ⟨.weather, .noData⟩) := rfl
  obtain ⟨-, -, -, hadd⟩ := recognize_iff_isEarliestBest builtin _ _ hall
  refine ⟨note, hall, hcommand, hbefore, ?_⟩
  exact (hadd note hcommand).2 _ hnote (.inr ⟨_, hbefore, by decide⟩)

end Repertoire

end Utterance
