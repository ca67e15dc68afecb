import Utterance.CommandLine
import Utterance.Proofs.CalendarEnd
import Utterance.Proofs.EnvironmentVariables
import Utterance.Proofs.PrintedActions
import Utterance.Proofs.Session
import Utterance.Proofs.TimeFreeSentences

set_option autoImplicit false

/-!
# How a call ends

A call of the program ends in one of five ways, tried in this order: a variable of the environment
is refused; there are no arguments; the recognition of the sentence fails, finds nothing, or finds a
command, whose action is printed. Of the environment two variables count, the reference time and the
layout, and of the clock nothing when the reference time is set or not needed.

## Main definitions

* `Utterance.CommandLine.Outcome.Answers`: the outcome goes with the answer to a sentence.
* `Utterance.CommandLine.IgnoresClock`: the time of the clock does not matter.

## Main results

* `Utterance.CommandLine.answers_answer`: the outcome for a sentence.
* `Utterance.CommandLine.run_congr`: which variables the outcome of a call depends on.
* `Utterance.CommandLine.run_determined`: the outcome of a call.
-/

namespace Utterance

open Calendar Text

namespace CommandLine

variable {environment : Environment} {arguments : List String} {settings : Settings}
  {fault : SettingsFault} {sentence : String} {clock now : Timestamp}

/-! ## The outcome for a sentence -/

/-- The outcome goes with the answer to a sentence: what is printed for a recognition where something
is recognized, the sentence itself where nothing is, and an exit code of its own for a failure, which
needs one of the last eight days of the calendar. -/
structure Outcome.Answers (o : Outcome) (layout : Json.Layout) (sentence : String)
    (now : Timestamp) : Prop where
  /-- The exit code is 0 exactly when something is recognized. -/
  exitCode_eq_zero_iff : o.exitCode = 0 ↔
    ∃ a, Repertoire.builtin.recognize sentence now = .ok (some a)
  /-- Then the output is what is printed for it, with a line break at the end. -/
  output_eq : ∀ a, Repertoire.builtin.recognize sentence now = .ok (some a) →
    ∃ inputs text, a.Prints inputs layout text ∧ o.output = text ++ "\n"
  /-- The exit code is 1 exactly when nothing is recognized. -/
  exitCode_eq_one_iff : o.exitCode = 1 ↔ Repertoire.builtin.recognize sentence now = .ok none
  /-- Then the message shows the sentence as it was given. -/
  errors_eq : Repertoire.builtin.recognize sentence now = .ok none →
    o.errors = "'" ++ sentence ++ "' is not a valid command.\n"
  /-- The exit code is 101 exactly when the recognition leaves the calendar. -/
  exitCode_eq_101_iff : o.exitCode = 101 ↔
    Repertoire.builtin.recognize sentence now = .error .calendarEnd
  /-- The recognition fails in no other way. -/
  eq_calendarEnd : ∀ failure, Repertoire.builtin.recognize sentence now = .error failure →
    failure = .calendarEnd
  /-- It leaves the calendar in the last eight days of it only. -/
  late_of_exitCode_eq : o.exitCode = 101 →
    now.date.year = lastYear ∧ now.date.month = 12 ∧ 24 ≤ now.date.day

/-- A failed recognition needs one of the last eight days of the calendar. -/
lemma late_of_recognize_eq_error {r : Repertoire} {failure : RecognitionFailure}
    (h : r.recognize sentence now = .error failure) :
    now.date.year = lastYear ∧ now.date.month = 12 ∧ 24 ≤ now.date.day := by
  refine Timestamp.not_hasRoom_iff.1 fun hnow => ?_
  obtain ⟨answer, hanswer⟩ := r.exists_recognize hnow sentence
  rw [h] at hanswer
  cases hanswer

/-- **The outcome for a sentence** goes with the answer to it. -/
theorem answers_answer (settings : Settings) (sentence : String) (clock : Timestamp) :
    (answer settings sentence clock).Answers settings.layout sentence
      (settings.referenceTime clock) := by
  unfold answer
  cases hanswer : Repertoire.builtin.recognize sentence (settings.referenceTime clock) with
  | error fault =>
    obtain rfl := Repertoire.eq_calendarEnd_of_recognize hanswer
    have hlate := late_of_recognize_eq_error hanswer
    constructor
    case eq_calendarEnd => exact fun _ => Repertoire.eq_calendarEnd_of_recognize
    all_goals simp [hanswer, failure, failureCode, hlate]
  | ok found =>
    cases found with
    | none => constructor <;> simp [hanswer, failure, String.append_assoc]
    | some a =>
      constructor
      case output_eq =>
        intro a' ha'
        obtain rfl : a = a' := by simpa [hanswer] using ha'
        exact ⟨_, _, a.prints_text settings.layout, rfl⟩
      all_goals simp [hanswer, success]

/-- Exit code 2 is not among those for a sentence. -/
lemma Outcome.Answers.exitCode_ne_two {o : Outcome} {layout : Json.Layout}
    (h : o.Answers layout sentence now) : o.exitCode ≠ 2 := by
  cases hanswer : Repertoire.builtin.recognize sentence now with
  | error failure =>
    obtain rfl := h.eq_calendarEnd failure hanswer
    simp [h.exitCode_eq_101_iff.2 hanswer]
  | ok found =>
    cases found with
    | none => simp [h.exitCode_eq_one_iff.2 hanswer]
    | some a => simp [h.exitCode_eq_zero_iff.2 ⟨a, hanswer⟩]

/-- The message that shows the sentence is not the one for a call without arguments. -/
lemma Outcome.Answers.errors_ne {o : Outcome} {layout : Json.Layout}
    (h : o.Answers layout sentence now) (hcode : o.exitCode = 1) :
    o.errors ≠ "No command given\n" := by
  rw [h.errors_eq (h.exitCode_eq_one_iff.1 hcode)]
  intro heq
  -- one message begins with a quotation mark, the other does not
  have hhead := congrArg (fun message => message.toList.head?) heq
  simp at hhead

/-- Without a result nothing is written to the standard output. -/
lemma output_answer_of_ne_zero (h : (answer settings sentence clock).exitCode ≠ 0) :
    (answer settings sentence clock).output = "" := by
  unfold answer at *
  split at h
  · rfl
  · rfl
  · exact absurd rfl h

/-- The outcome for a sentence depends on the layout and on the answer. -/
lemma answer_congr {settings₁ settings₂ : Settings} {clock₁ clock₂ : Timestamp}
    (hpretty : settings₁.pretty = settings₂.pretty)
    (h : Repertoire.builtin.recognize sentence (settings₁.referenceTime clock₁) =
      Repertoire.builtin.recognize sentence (settings₂.referenceTime clock₂)) :
    answer settings₁ sentence clock₁ = answer settings₂ sentence clock₂ := by
  simp only [answer, h, Settings.layout, hpretty]

/-! ## The outcome of a call -/

/-- A fault of the settings ends the call before anything else, with arguments or without. -/
lemma run_of_error (h : Settings.ofEnvironment environment = .error fault) :
    run environment arguments clock = failure 2 fault.message := by
  simp only [run, h]

/-- The message for a fault of the environment. -/
lemma errors_run_of_hasFault (h : environment.HasFault fault) :
    (run environment arguments clock).errors = fault.message ++ "\n" := by
  rw [run_of_error (Settings.ofEnvironment_eq_error_iff.2 h)]
  rfl

/-- Without arguments there is no sentence to answer. -/
lemma run_nil (h : Settings.ofEnvironment environment = .ok settings) :
    run environment [] clock = failure 1 "No command given" := by
  simp only [run, h]
  rfl

/-- The arguments are the words of one sentence. -/
lemma run_of_ne_nil (h : Settings.ofEnvironment environment = .ok settings)
    (harguments : arguments ≠ []) :
    run environment arguments clock = answer settings (" ".intercalate arguments) clock := by
  simp [run, h, harguments]

/-- The three ways of a call: a fault of the settings, a message for want of arguments, or the answer
to the sentence of the arguments. -/
lemma run_cases (environment : Environment) (arguments : List String) (clock : Timestamp) :
    (∃ fault, Settings.ofEnvironment environment = .error fault ∧
      run environment arguments clock = failure 2 fault.message) ∨
    ∃ settings, Settings.ofEnvironment environment = .ok settings ∧
      (run environment arguments clock = failure 1 "No command given" ∨
        run environment arguments clock = answer settings (" ".intercalate arguments) clock) := by
  cases h : Settings.ofEnvironment environment with
  | error fault => exact .inl ⟨fault, rfl, run_of_error h⟩
  | ok settings =>
    by_cases harguments : arguments = []
    · exact .inr ⟨settings, rfl, .inl (harguments ▸ run_nil h)⟩
    · exact .inr ⟨settings, rfl, .inr (run_of_ne_nil h harguments)⟩

/-- The time of the clock does not matter: the environment sets the reference time, or the sentence
names no time. -/
def IgnoresClock (environment : Environment) (sentence : String) : Prop :=
  (environment.get? "recognizer_now").isSome = true ∨ ¬ MentionsTime (words (lowercase sentence))

/-- The clock has no effect on the recognition where it does not matter. -/
lemma IgnoresClock.recognize_eq {settings₁ settings₂ : Settings}
    (h : IgnoresClock environment sentence)
    (hsettings : Settings.ofEnvironment environment = .ok settings₁)
    (hnow : settings₁.now = settings₂.now) (r : Repertoire) (clock₁ clock₂ : Timestamp) :
    r.recognize sentence (settings₁.referenceTime clock₁) =
      r.recognize sentence (settings₂.referenceTime clock₂) := by
  obtain hset | hnone := h
  · have hsome := Settings.isSome_now_of_isSome hsettings hset
    rw [Settings.referenceTime_eq hnow hsome clock₁ clock₂]
  · exact r.recognize_eq_of_not_mentionsTime hnone _ _

/-- Two environments that agree on the reference time and the layout end a call alike, whatever
else they hold and whatever the clock shows, if it does not matter. -/
theorem run_congr {environment' : Environment}
    (hclock : IgnoresClock environment (" ".intercalate arguments))
    (hnow : environment.AgreesOn environment' "recognizer_now")
    (hpretty : environment.AgreesOn environment' "recognizer_pretty") (clock clock' : Timestamp) :
    run environment arguments clock = run environment' arguments clock' := by
  obtain ⟨fault, h, h'⟩ | ⟨settings, settings', h, h', hsame, hlayout⟩ :=
    Settings.ofEnvironment_congr hnow hpretty
  · rw [run_of_error h, run_of_error h']
  · by_cases harguments : arguments = []
    · rw [harguments, run_nil h, run_nil h']
    · rw [run_of_ne_nil h harguments, run_of_ne_nil h' harguments]
      exact answer_congr hlayout (hclock.recognize_eq h hsame _ clock clock')

/-- The environment alone can end a call with exit code 2. -/
lemma exitCode_run_eq_two_iff : (run environment arguments clock).exitCode = 2 ↔
    ∃ fault, environment.HasFault fault := by
  simp only [← Settings.ofEnvironment_eq_error_iff]
  obtain ⟨fault, h, hrun⟩ | ⟨settings, h, hrun | hrun⟩ := run_cases environment arguments clock
  · simp [hrun, h, failure]
  · simp [hrun, h, failure]
  · have hanswers := answers_answer settings (" ".intercalate arguments) clock
    simp [hrun, h, hanswers.exitCode_ne_two]

/-- A call with arguments answers their sentence, at the reference time and in the layout that the
environment gives. -/
lemma exists_answers_run (h : ¬ ∃ fault, environment.HasFault fault) (harguments : arguments ≠ [])
    (clock : Timestamp) :
    ∃ now layout, environment.TellsTime clock now ∧ environment.AsksFor layout ∧
      (run environment arguments clock).Answers layout (" ".intercalate arguments) now := by
  obtain ⟨settings, hsettings⟩ := Settings.exists_ofEnvironment_eq_ok h
  have hgives := Settings.ofEnvironment_eq_ok_iff.1 hsettings
  refine ⟨_, _, hgives.tellsTime clock, hgives.layout, ?_⟩
  rw [run_of_ne_nil hsettings harguments]
  exact answers_answer settings _ clock

/-- The message for want of arguments is left to calls without arguments. -/
lemma run_eq_noCommand_iff (h : ¬ ∃ fault, environment.HasFault fault) :
    (run environment arguments clock).exitCode = 1 ∧
      (run environment arguments clock).errors = "No command given\n" ↔ arguments = [] := by
  constructor
  · rintro ⟨hcode, herrors⟩
    by_contra harguments
    obtain ⟨now, layout, -, -, hanswers⟩ := exists_answers_run h harguments clock
    exact hanswers.errors_ne hcode herrors
  · rintro rfl
    obtain ⟨settings, hsettings⟩ := Settings.exists_ofEnvironment_eq_ok h
    rw [run_nil hsettings]
    exact ⟨rfl, rfl⟩

/-- Without a result nothing is written to the standard output. -/
lemma output_run_of_ne_zero (hcode : (run environment arguments clock).exitCode ≠ 0) :
    (run environment arguments clock).output = "" := by
  obtain ⟨fault, -, hrun⟩ | ⟨settings, -, hrun | hrun⟩ := run_cases environment arguments clock
  · rw [hrun, failure]
  · rw [hrun, failure]
  · rw [hrun] at hcode ⊢
    exact output_answer_of_ne_zero hcode

/-- **The outcome of a call.** A value that the environment refuses ends it with exit code 2 and a
message, with arguments or without. Else a call without arguments ends with a message of its own, and
a call with arguments by the answer of the built-in commands, which have no fault, to the sentence of
the arguments: seen from the reference time and printed in the layout that the environment gives.
Without a result nothing is written to the standard output. Exit code and output are the same in
every environment with the same reference time and layout, and whatever the clock shows when it does
not matter.

**Proof sketch.** The three ways of a call are `run_of_error`, `run_nil` and `run_of_ne_nil`; the
environment decides between the first and the others (`Settings.ofEnvironment_eq_error_iff`), and
gives one reference time, one layout and one text to print (`Environment.TellsTime.unique`,
`Environment.AsksFor.unique`, `Recognition.Prints.unique`). A recognition fails at the end of the
calendar only (`Repertoire.eq_calendarEnd_of_recognize`), so exit code 2 is left to the
environment. -/
theorem run_determined (environment : Environment) (arguments : List String) (clock : Timestamp) :
    let o := run environment arguments clock
    (o.exitCode = 2 ↔ ∃ fault, environment.HasFault fault) ∧
    (∀ cause, environment.HasFault (.badTime cause) →
      o.errors = "Config error: " ++ cause.message ++ " for key `now`" ++ "\n") ∧
    (∀ text, environment.HasFault (.notBoolean text) →
      o.errors = "Config error: invalid type: string " ++ quoted text ++
        ", expected a boolean for key `pretty` in the environment" ++ "\n") ∧
    ((¬ ∃ fault, environment.HasFault fault) →
      (o.exitCode = 1 ∧ o.errors = "No command given\n" ↔ arguments = []) ∧
      (arguments ≠ [] → ∃ now layout, environment.TellsTime clock now ∧
        environment.AsksFor layout ∧ o.Answers layout (" ".intercalate arguments) now)) ∧
    (o.exitCode ≠ 0 → o.output = "") ∧
    (∃ reminders,
      Repertoire.empty.define "reminder" [timeFirst.slots, timeLast.slots] = .ok reminders ∧
      reminders.define "weather" [showWeather.slots] = .ok .builtin) ∧
    (IgnoresClock environment (" ".intercalate arguments) →
      ∀ (environment' : Environment) (clock' : Timestamp),
        environment.AgreesOn environment' "recognizer_now" →
        environment.AgreesOn environment' "recognizer_pretty" →
        (run environment' arguments clock').exitCode = o.exitCode ∧
          (run environment' arguments clock').output = o.output) := by
  intro o
  refine ⟨exitCode_run_eq_two_iff, fun cause => errors_run_of_hasFault,
    fun text => errors_run_of_hasFault,
    fun h => ⟨run_eq_noCommand_iff h, fun harguments => exists_answers_run h harguments clock⟩,
    output_run_of_ne_zero,
    ⟨_, rfl, rfl⟩, fun hclock environment' clock' hnow hpretty => ?_⟩
  simp only [o, run_congr hclock hnow hpretty clock clock', and_self]

/-- A reminder under a reference time that is set, printed on one line and on several, with other
variables and another clock; and a value that is refused. -/
theorem run_sleep_tomorrow :
    let compact : Environment :=
      [("RECOGNIZER_NOW", "2017-06-01T10:15:00"), ("RECOGNIZER_PRETTY", "off")]
    let other : Environment :=
      [("LANG", "C"), ("recognizer_pretty", "off"), ("RECOGNIZER_LOG", "debug"),
        ("Recognizer_Now", "2017-06-01T10:15:00")]
    let indented : Environment := [("RECOGNIZER_NOW", "2017-06-01T10:15:00")]
    let refused : Environment := [("Recognizer_Pretty", "Maybe")]
    let arguments := ["Remind", "me to", "sleep tomorrow"]
    let sentence := " ".intercalate arguments
    let clock : Timestamp := .lastWithRoom
    let clock' : Timestamp := ⟨.last, ⟨0, 0, 0, 0, by decide⟩⟩
    (IgnoresClock compact sentence ∧
      (¬ ∃ fault, compact.HasFault fault) ∧
      (∃ now layout, compact.TellsTime clock now ∧ compact.AsksFor layout ∧
        (run compact arguments clock).Answers layout sentence now) ∧
      (run compact arguments clock).exitCode = 0 ∧
      (run compact arguments clock).output =
        "\x7b\"action\":\"reminder_action\",\"inputs\":\x7b\"reminder\":[\"sleep\"]," ++
          "\"time\":\"2017-06-02T09:00:00\"\x7d\x7d\n" ∧
      (run other arguments clock').exitCode = (run compact arguments clock).exitCode ∧
      (run other arguments clock').output = (run compact arguments clock).output) ∧
    (run indented arguments clock).output =
      "\x7b\n  \"action\": \"reminder_action\",\n  \"inputs\": \x7b\n    \"reminder\": [\n" ++
        "      \"sleep\"\n    ],\n    \"time\": \"2017-06-02T09:00:00\"\n  \x7d\n\x7d\n" ∧
    refused.HasFault (.notBoolean "maybe") ∧
    (run refused [] clock).exitCode = 2 ∧
    (run refused [] clock).errors = "Config error: invalid type: string \"maybe\", " ++
      "expected a boolean for key `pretty` in the environment\n" := by
  intro compact other indented refused arguments sentence clock clock'
  have hclock : IgnoresClock compact sentence := .inl (by decide +kernel)
  have hnone : ¬ ∃ fault, compact.HasFault fault := by decide +kernel
  have hnow : compact.AgreesOn other "recognizer_now" := by decide +kernel
  have hpretty : compact.AgreesOn other "recognizer_pretty" := by decide +kernel
  have hfault : refused.HasFault (.notBoolean "maybe") :=
    Settings.ofEnvironment_eq_error_iff.1 (by decide +kernel)
  obtain ⟨-, -, -, hgiven, -, -, hcongr⟩ := run_determined compact arguments clock
  obtain ⟨hrefused, -, hmessage, -⟩ := run_determined refused [] clock
  refine ⟨⟨hclock, hnone, (hgiven hnone).2 (by decide), by decide +kernel, by decide +kernel,
    hcongr hclock other clock' hnow hpretty⟩, by decide +kernel, hfault, hrefused.2 ⟨_, hfault⟩, ?_⟩
  exact (hmessage "maybe" hfault).trans (by decide +kernel)

end CommandLine

end Utterance
