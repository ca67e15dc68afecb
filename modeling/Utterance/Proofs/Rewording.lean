import Utterance.Proofs.Outcomes
import Utterance.Proofs.WordByWord

set_option autoImplicit false

/-!
# Sentences with the same words

A sentence is recognized by its words, each in lower case by itself. Capital letters, the blanks
between the words and, in a call, the division of the words into arguments have no effect.

## Main definitions

* `Utterance.SameWords`: two texts have the same words in lower case.

## Main results

* `Utterance.Repertoire.recognize_congr`: texts with the same words are recognized alike.
* `Utterance.CommandLine.recognize_and_run_of_sameWords`: they also end a call alike.
-/

namespace Utterance

open Calendar Text

/-- The two texts have the same words, each in lower case by itself. -/
def SameWords (sentence₁ sentence₂ : String) : Prop :=
  (words sentence₁).map lowercase = (words sentence₂).map lowercase

instance (sentence₁ sentence₂ : String) : Decidable (SameWords sentence₁ sentence₂) :=
  inferInstanceAs (Decidable (_ = _))

variable {sentence₁ sentence₂ : String}

/-- Texts with the same words have the same words in lower case. -/
lemma SameWords.words_lowercase_eq (h : SameWords sentence₁ sentence₂) :
    words (lowercase sentence₁) = words (lowercase sentence₂) := by
  rw [words_lowercase, words_lowercase]
  exact h

/-- It does not matter how the words are divided into arguments. -/
lemma sameWords_intercalate_iff {arguments₁ arguments₂ : List String} :
    SameWords (" ".intercalate arguments₁) (" ".intercalate arguments₂) ↔
      (arguments₁.flatMap words).map lowercase = (arguments₂.flatMap words).map lowercase := by
  rw [SameWords, words_intercalate_eq_flatMap, words_intercalate_eq_flatMap]

/-- A command looks at the words of a sentence only. -/
lemma Command.extract_congr (command : Command) (h : words sentence₁ = words sentence₂)
    (now : Timestamp) : command.extract sentence₁ now = command.extract sentence₂ now := by
  rw [extract, extract, h]

/-- **Texts with the same words are recognized alike**, with the same failure if there is one. -/
theorem Repertoire.recognize_congr (r : Repertoire) (h : SameWords sentence₁ sentence₂)
    (now : Timestamp) : r.recognize sentence₁ now = r.recognize sentence₂ now :=
  bestOf_congr (fun command _ => command.extract_congr h.words_lowercase_eq now) none

namespace CommandLine

variable {environment : Environment} {arguments : List String} {settings : Settings}

/-- Exit code and output for a sentence depend on the answer only. -/
lemma exitCode_output_answer_congr {clock₁ clock₂ : Timestamp}
    (h : Repertoire.builtin.recognize sentence₁ (settings.referenceTime clock₁) =
      Repertoire.builtin.recognize sentence₂ (settings.referenceTime clock₂)) :
    (answer settings sentence₁ clock₁).exitCode = (answer settings sentence₂ clock₂).exitCode ∧
      (answer settings sentence₁ clock₁).output = (answer settings sentence₂ clock₂).output := by
  simp only [answer, h]
  split
  · exact ⟨rfl, rfl⟩
  · exact ⟨rfl, rfl⟩
  · exact ⟨rfl, rfl⟩

/-- Without arguments a call ends with the exit code and the output for an empty sentence. -/
lemma exitCode_output_run (h : Settings.ofEnvironment environment = .ok settings)
    (arguments : List String) (clock : Timestamp) :
    (run environment arguments clock).exitCode =
        (answer settings (" ".intercalate arguments) clock).exitCode ∧
      (run environment arguments clock).output =
        (answer settings (" ".intercalate arguments) clock).output := by
  by_cases harguments : arguments = []
  · -- no grammar of the built-in commands fits no words
    have hnone : Repertoire.builtin.recognize (" ".intercalate []) (settings.referenceTime clock) =
        .ok none := rfl
    simp only [harguments, run_nil h, answer, hnone]
    exact ⟨rfl, rfl⟩
  · rw [run_of_ne_nil h harguments]
    exact ⟨rfl, rfl⟩

/-- Calls with the same settings whose arguments have the same words end with the same exit code
and the same output. The clocks may differ if they do not matter. -/
theorem exitCode_output_run_congr {environment₁ environment₂ : Environment}
    {arguments₁ arguments₂ : List String} {clock₁ clock₂ : Timestamp}
    (hsettings : Settings.ofEnvironment environment₁ = Settings.ofEnvironment environment₂)
    (hwords : SameWords (" ".intercalate arguments₁) (" ".intercalate arguments₂))
    (hclock : clock₁ = clock₂ ∨ IgnoresClock environment₁ (" ".intercalate arguments₁)) :
    (run environment₁ arguments₁ clock₁).exitCode =
        (run environment₂ arguments₂ clock₂).exitCode ∧
      (run environment₁ arguments₁ clock₁).output =
        (run environment₂ arguments₂ clock₂).output := by
  cases h : Settings.ofEnvironment environment₁ with
  | error fault =>
    rw [run_of_error h, run_of_error (hsettings ▸ h)]
    exact ⟨rfl, rfl⟩
  | ok settings =>
    obtain ⟨hcode₁, houtput₁⟩ := exitCode_output_run h arguments₁ clock₁
    obtain ⟨hcode₂, houtput₂⟩ := exitCode_output_run (hsettings ▸ h) arguments₂ clock₂
    rw [hcode₁, houtput₁, hcode₂, houtput₂]
    have htime : Repertoire.builtin.recognize (" ".intercalate arguments₁)
        (settings.referenceTime clock₁) = Repertoire.builtin.recognize
          (" ".intercalate arguments₁) (settings.referenceTime clock₂) := by
      obtain rfl | hignored := hclock
      · rfl
      · exact hignored.recognize_eq h rfl _ clock₁ clock₂
    exact exitCode_output_answer_congr
      (htime.trans (Repertoire.builtin.recognize_congr hwords _))

/-- **Texts with the same words** are recognized alike by every repertoire at every time. Calls with
the same settings whose arguments have the same words end with the same exit code and output,
however the words are divided into arguments and whatever blanks stand between them.

**Proof sketch.** A text in lower case has the words of the text, each in lower case by itself
(`words_lowercase`), and a repertoire looks at the words of the text in lower case only. A call
without arguments ends like one whose arguments have no words. -/
theorem recognize_and_run_of_sameWords :
    (∀ (r : Repertoire) (sentence₁ sentence₂ : String) (now : Timestamp),
      SameWords sentence₁ sentence₂ → r.recognize sentence₁ now = r.recognize sentence₂ now) ∧
    (∀ (environment₁ environment₂ : Environment) (arguments₁ arguments₂ : List String)
      (clock₁ clock₂ : Timestamp),
      Settings.ofEnvironment environment₁ = Settings.ofEnvironment environment₂ →
      SameWords (" ".intercalate arguments₁) (" ".intercalate arguments₂) →
      (clock₁ = clock₂ ∨ IgnoresClock environment₁ (" ".intercalate arguments₁)) →
        (run environment₁ arguments₁ clock₁).exitCode =
            (run environment₂ arguments₂ clock₂).exitCode ∧
          (run environment₁ arguments₁ clock₁).output =
            (run environment₂ arguments₂ clock₂).output) ∧
    (∀ arguments₁ arguments₂ : List String,
      SameWords (" ".intercalate arguments₁) (" ".intercalate arguments₂) ↔
        (arguments₁.flatMap words).map lowercase = (arguments₂.flatMap words).map lowercase) :=
  ⟨fun r _ _ now h => r.recognize_congr h now,
    fun _ _ _ _ _ _ => exitCode_output_run_congr,
    fun _ _ => sameWords_intercalate_iff⟩

/-- Capital letters, a final sigma and other blanks, in one argument and in four. -/
theorem run_weather_in_one_argument :
    SameWords "SHOW ΟΔΟΣ" "show\u2003οδος" ∧
    Repertoire.builtin.recognize "SHOW ΟΔΟΣ" .lastWithRoom =
      Repertoire.builtin.recognize "show\u2003οδος" .lastWithRoom ∧
    SameWords (" ".intercalate [" Show me\tTHE weather"])
      (" ".intercalate ["show", "ME", "the", "Weather"]) ∧
    (run [] [" Show me\tTHE weather"] .lastWithRoom).output =
      (run [] ["show", "ME", "the", "Weather"] .lastWithRoom).output := by
  obtain ⟨hrecognize, hrun, -⟩ := recognize_and_run_of_sameWords
  have hsigma : SameWords "SHOW ΟΔΟΣ" "show\u2003οδος" := by decide +kernel
  have hwords : SameWords (" ".intercalate [" Show me\tTHE weather"])
      (" ".intercalate ["show", "ME", "the", "Weather"]) := by decide +kernel
  refine ⟨hsigma, hrecognize _ _ _ _ hsigma, hwords, ?_⟩
  exact (hrun [] [] _ _ .lastWithRoom .lastWithRoom rfl hwords (.inl rfl)).2

end CommandLine

end Utterance
