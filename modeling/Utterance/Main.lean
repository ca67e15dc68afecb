import Std.Time.Zoned
import Utterance.CommandLine

set_option autoImplicit false

/-!
# The program

Reads the environment and the clock, and hands them with the arguments to the command line. This is
the only place where the clock is read: everywhere else the time is given. The program writes no log.

## Main definitions

* `main`: the program.
-/

namespace Utterance.Program

open Calendar

/-- The variables that are looked up. A variable can be looked up by its exact name only, so of the
spellings that the settings accept these are the ones in capital and in small letters throughout; the
program does not see others, such as `Recognizer_Now`. -/
def settingNames : List String :=
  ["RECOGNIZER_LOG", "RECOGNIZER_NOW", "RECOGNIZER_PRETTY", "recognizer_log", "recognizer_now",
   "recognizer_pretty"]

/-- Those of the variables in `settingNames` that are set, with their values. -/
def environment : IO Environment :=
  settingNames.filterMapM fun name => do
    let value ← IO.getEnv name
    return value.map fun value => (name, value)

/-- The local time, or the universal time where no time zone is known. -/
def localNow : IO Std.Time.PlainDateTime := do
  try
    Std.Time.PlainDateTime.now
  catch _ =>
    let stamp ← Std.Time.Timestamp.now
    return .ofWallTime (.ofTimestamp stamp .zero)

/-- The local time of the clock. -/
def clock : IO Timestamp := do
  let now ← localNow
  let date := now.date
  let time := now.time
  match Date.of? date.year.toInt date.month.val.toNat date.day.val.toNat,
      TimeOfDay.of? time.hour.val.toNat time.minute.val.toNat time.second.val.toNat
        time.nanosecond.val.toNat with
  | some date, some time => return ⟨date, time⟩
  | _, _ => throw <| IO.userError "the clock shows no time of the calendar"

end Utterance.Program

/-- Recognizes the sentence made of the arguments. -/
def main (arguments : List String) : IO UInt32 := do
  let environment ← Utterance.Program.environment
  let clock ← Utterance.Program.clock
  let outcome := Utterance.CommandLine.run environment arguments clock
  IO.print outcome.output
  IO.eprint outcome.errors
  return UInt32.ofNat outcome.exitCode
