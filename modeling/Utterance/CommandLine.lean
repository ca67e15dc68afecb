import Utterance.Action
import Utterance.Repertoire.Builtin
import Utterance.Settings

set_option autoImplicit false

/-!
# The command line

The arguments are the words of one sentence. A recognized sentence is answered by the document of
its action on the standard output; anything else ends with a message on the standard error and an
exit code of its own. Log lines, which the setting for the log turns on and which stand on the
standard error too, are left out: they change neither the exit code nor the standard output.

## Main definitions

* `Utterance.CommandLine.Outcome`: exit code and outputs.
* `Utterance.CommandLine.run`: the outcome of a call.
-/

namespace Utterance.CommandLine

open Calendar

/-- How a call of the program ends. -/
structure Outcome where
  /-- The exit code. -/
  exitCode : Nat
  /-- What is written to the standard output. -/
  output : String
  /-- The message on the standard error. Log lines, which may stand there before it, are left out.
  With exit code 101 the message stands for the report of a crash, whose text is not that of the
  message. -/
  errors : String
  deriving DecidableEq

/-- The end of a call without an answer. -/
def failure (exitCode : Nat) (message : String) : Outcome := ⟨exitCode, "", message ++ "\n"⟩

/-- The end of a call with an answer. -/
def success (text : String) : Outcome := ⟨0, text ++ "\n", ""⟩

/-- The exit code for a sentence whose recognition failed. At the end of the calendar the addition of
days ends the program by a crash, which has exit code 101. -/
def failureCode : RecognitionFailure → Nat
  | .calendarEnd => 101
  | _ => 2

/-- The outcome for a sentence. -/
def answer (settings : Settings) (sentence : String) (clock : Timestamp) : Outcome :=
  match Repertoire.builtin.recognize sentence (settings.referenceTime clock) with
  | .error fault => failure (failureCode fault) fault.message
  | .ok none => failure 1 ("'" ++ sentence ++ "' is not a valid command.")
  | .ok (some recognition) => success ((Action.ofRecognition recognition).text settings.layout)

/-- The outcome of a call with an environment and arguments, without the lines of the log. The clock
is looked at only when the environment sets no reference time. -/
def run (environment : Environment) (arguments : List String) (clock : Timestamp) : Outcome :=
  match Settings.ofEnvironment environment with
  | .error fault => failure 2 fault.message
  | .ok settings =>
    if arguments.isEmpty then failure 1 "No command given"
    else answer settings (" ".intercalate arguments) clock

end Utterance.CommandLine
