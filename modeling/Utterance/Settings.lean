import Utterance.Calendar.Timestamp.Reading
import Utterance.Json
import Utterance.Text.Lowercase
import Utterance.Text.Quoted

set_option autoImplicit false

/-!
# Settings

Settings of the command line come from environment variables, whose names count without regard to
case. What is not set has a default.

## Main definitions

* `Utterance.Settings`: the settings, with their defaults.
* `Utterance.SettingsFault`: a setting that cannot be read.
* `Utterance.Settings.ofEnvironment`: the settings of an environment, or their first fault.
-/

namespace Utterance

open Calendar Text

/-- The names and values of environment variables. No two names are taken to be the same in lower
case: such variables have no order of their own. -/
abbrev Environment := List (String × String)

/-- The value of the variable whose name in lower case is `name`. Names are taken to be distinct in
lower case; where they are not, the first variable counts. -/
def Environment.get? (environment : Environment) (name : String) : Option String :=
  (environment.find? fun e => lowercase e.1 == name).map Prod.snd

/-- The settings of the command line. -/
structure Settings where
  /-- Which messages are logged. -/
  log : String := "warn"
  /-- The reference time; the clock when there is none. -/
  now : Option Timestamp := none
  /-- Whether documents are laid out over several lines. -/
  pretty : Bool := true
  deriving DecidableEq

/-- A setting that cannot be read. -/
inductive SettingsFault where
  /-- The reference time is no timestamp. -/
  | badTime (fault : ReadFault)
  /-- The value for the layout, in lower case, is no truth value. -/
  | notBoolean (text : String)
  deriving DecidableEq

/-- The wording of a fault. -/
def SettingsFault.message : SettingsFault → String
  | badTime fault => "Config error: " ++ fault.message ++ " for key `now`"
  | notBoolean text =>
    "Config error: invalid type: string " ++ quoted text ++
      ", expected a boolean for key `pretty` in the environment"

namespace Settings

/-- The texts for yes and no, in any case. -/
def readBool (s : String) : Except SettingsFault Bool :=
  let small := lowercase s
  if small ∈ ["1", "true", "on", "yes"] then .ok true
  else if small ∈ ["0", "false", "off", "no"] then .ok false
  else .error (.notBoolean small)

/-- A reference time. -/
def readTime (s : String) : Except SettingsFault Timestamp :=
  match Timestamp.ofText s with
  | .ok t => .ok t
  | .error fault => .error (.badTime fault)

/-- Reads the value of a variable if it is set. -/
def readVariable {α : Type} (environment : Environment) (name : String)
    (read : String → Except SettingsFault α) : Except SettingsFault (Option α) :=
  match environment.get? name with
  | none => .ok none
  | some s => (read s).map some

/-- The settings of an environment, or their first fault. The reference time is read before the
layout; at most one of them is taken to have a fault. -/
def ofEnvironment (environment : Environment) : Except SettingsFault Settings :=
  let defaults : Settings := {}
  match readVariable environment "recognizer_now" readTime with
  | .error fault => .error fault
  | .ok now =>
    match readVariable environment "recognizer_pretty" readBool with
    | .error fault => .error fault
    | .ok pretty =>
      .ok
        { log := (environment.get? "recognizer_log").getD defaults.log
          now := now.or defaults.now
          pretty := pretty.getD defaults.pretty }

/-- The reference time: the one that is set, or else the time of the clock. -/
def referenceTime (s : Settings) (clock : Timestamp) : Timestamp := s.now.getD clock

/-- The layout of documents. -/
def layout (s : Settings) : Json.Layout := if s.pretty then .indented else .compact

end Settings

end Utterance
