import Utterance.Proofs.Alternatives
import Utterance.Proofs.Extraction
import Utterance.Repertoire.Builtin

set_option autoImplicit false

/-!
# Sessions without failures

In a session commands are added to a repertoire one after the other, and a command with a fault
leaves it as it was. Whatever has been added, a sentence is never answered with a failure as long
as eight days follow in the calendar: the rules for slots rule out the rows along which a cut could
fail, growing takes no words that are no time phrase, and a time phrase names a time within the
eight days.

## Main definitions

* `Utterance.SessionStep`, `Utterance.Repertoire.step`: one step of a session.
* `Utterance.Repertoire.afterSession`: the repertoire after some steps.

## Main results

* `Utterance.Repertoire.mem_commands_afterSession`: where the commands of a session come from.
* `Utterance.ending_cut_ne_failed`: a cut never fails.
* `Utterance.Repertoire.exists_recognize_afterSession`: a session never meets a failure.
-/

namespace Utterance

open Calendar Text

/-! ## Sessions -/

/-- A step of a session. -/
inductive SessionStep where
  /-- Defines a command by a name and rows of slots. -/
  | define (name : String) (rows : List (List Slot))
  /-- Goes back to the built-in commands. -/
  | reset

namespace Repertoire

/-- The repertoire after a step. A definition with a fault changes nothing. -/
def step (r : Repertoire) : SessionStep → Repertoire
  | .define name rows =>
    match r.define name rows with
    | .error _ => r
    | .ok extended => extended
  | .reset => builtin

/-- The repertoire after some steps, from left to right. -/
def afterSession (start : Repertoire) (steps : List SessionStep) : Repertoire :=
  steps.foldl step start

/-- A step brings in the built-in commands or the command that it defines. -/
lemma mem_commands_step {r : Repertoire} {s : SessionStep} {command : Command}
    (h : command ∈ (r.step s).commands) :
    command ∈ r.commands ∨ command ∈ builtin.commands ∨
      ∃ name rows, s = .define name rows ∧ Command.ofSlots name rows = .ok command := by
  cases s with
  | reset => exact .inr (.inl h)
  | define name rows =>
    simp only [step, define] at h
    cases hcommand : Command.ofSlots name rows with
    | error fault =>
      rw [hcommand] at h
      exact .inl h
    | ok defined =>
      rw [hcommand] at h
      obtain h | h := List.mem_append.1 h
      · exact .inl h
      · obtain rfl := List.mem_singleton.1 h
        exact .inr (.inr ⟨name, rows, rfl, hcommand⟩)

/-- **Every command of a session** was there at its start, is built in, or was defined by a step of
the session and found to be without a fault. -/
theorem mem_commands_afterSession {start : Repertoire} {steps : List SessionStep}
    {command : Command} (h : command ∈ (start.afterSession steps).commands) :
    command ∈ start.commands ∨ command ∈ builtin.commands ∨
      ∃ name rows, .define name rows ∈ steps ∧ Command.ofSlots name rows = .ok command := by
  induction steps generalizing start with
  | nil => exact .inl h
  | cons s steps ih =>
    obtain h | h | ⟨name, rows, hmem, hcommand⟩ := ih h
    · obtain h | h | ⟨name, rows, rfl, hcommand⟩ := mem_commands_step h
      · exact .inl h
      · exact .inr (.inl h)
      · exact .inr (.inr ⟨name, rows, List.mem_cons_self, hcommand⟩)
    · exact .inr (.inl h)
    · exact .inr (.inr ⟨name, rows, List.mem_cons_of_mem _ hmem, hcommand⟩)

end Repertoire

/-! ## Failures -/

/-- Along a separable row of slots a cut never fails. -/
theorem ending_cut_ne_failed {slots : List Slot} (hslots : Separable slots) (words : List String)
    (failure : RecognitionFailure) : (cut slots words).ending ≠ .failed failure := by
  obtain ⟨segments, rest, -, hcut⟩ | ⟨hending, -⟩ := cut_spec hslots words
  · simp [hcut]
  · simp [hending]

variable {now : Timestamp}

/-- With eight days to follow, a command always answers. -/
theorem Command.exists_extract (command : Command) (hnow : now.HasRoom) (sentence : String) :
    ∃ answer, command.extract sentence now = .ok answer := by
  cases hextract : command.extract sentence now with
  | ok answer => exact ⟨answer, rfl⟩
  | error failure =>
    obtain ⟨grammar, -, hfailure⟩ := exists_of_firstExtract_eq_error hextract
    obtain ⟨answer, hanswer⟩ := grammar.exists_extract hnow (words sentence)
    rw [hfailure] at hanswer
    cases hanswer

namespace Repertoire

/-- With eight days to follow, a repertoire always answers. -/
theorem exists_recognize (r : Repertoire) (hnow : now.HasRoom) (sentence : String) :
    ∃ answer, r.recognize sentence now = .ok answer :=
  exists_bestOf_iff.2 fun command _ => command.exists_extract hnow (lowercase sentence)

/-- **A session never meets a failure.** Whatever has been defined, the repertoire and each of its
commands answer every sentence. No cut along their grammars fails, and none runs past the words:
the segments that it has taken begin them.

**Proof sketch.** A grammar carries its rules, so it does not matter by which steps its command has
come: its slots are separable, and a cut along them goes on or stops (`ending_cut_ne_failed`). The
time slots that it has reached hold time phrases, and with eight days to follow these name times in
the calendar (`exists_keepAll`). -/
theorem exists_recognize_afterSession {start : Repertoire}
    (hstart : start = empty ∨ start = builtin) (steps : List SessionStep) (sentence : String)
    (hnow : now.HasRoom) :
    (∃ answer, (start.afterSession steps).recognize sentence now = .ok answer) ∧
    ∀ command ∈ (start.afterSession steps).commands,
      (command ∈ builtin.commands ∨
        ∃ name rows, .define name rows ∈ steps ∧ Command.ofSlots name rows = .ok command) ∧
      (∃ answer, command.extract sentence now = .ok answer) ∧
      ∀ grammar ∈ command.grammars, ∀ ws,
        (∀ failure, (cut grammar.slots ws).ending ≠ .failed failure) ∧
        ∀ front, front <+: (cut grammar.slots ws).segments →
          front.flatMap Segment.words <+: ws := by
  refine ⟨exists_recognize _ hnow sentence, fun command hcommand => ⟨?_, ?_, ?_⟩⟩
  · obtain hmem | hmem | hdefined := mem_commands_afterSession hcommand
    · obtain rfl | rfl := hstart
      · exact absurd hmem List.not_mem_nil
      · exact .inl hmem
    · exact .inl hmem
    · exact .inr hdefined
  · exact command.exists_extract hnow sentence
  · intro grammar _ ws
    refine ⟨ending_cut_ne_failed grammar.wellFormed.separable ws, ?_⟩
    rintro front ⟨back, hfront⟩
    have hcut := flatMap_words_cut grammar.slots ws
    rw [← hfront, List.flatMap_append] at hcut
    exact (List.prefix_append _ _).trans hcut

/-- An alarm defined after a step back and after a definition with a fault. -/
theorem exists_recognize_wake_me : Timestamp.lastWithRoom.HasRoom ∧
    let steps : List SessionStep :=
      [.define "lamp" [[.fixed ["lamp"], .greedy "state"]], .reset, .define "Two Words" [],
        .define "alarm" [[.greedy "text", .time "time"]]]
    (builtin.afterSession steps).commands.map Command.name = ["reminder", "weather", "alarm"] ∧
    ∃ answer, (builtin.afterSession steps).recognize "Wake me on Friday" .lastWithRoom =
      .ok answer := by
  refine ⟨Timestamp.hasRoom_lastWithRoom, rfl, ?_⟩
  exact (exists_recognize_afterSession (.inr rfl) _ _ Timestamp.hasRoom_lastWithRoom).1

end Repertoire

end Utterance
