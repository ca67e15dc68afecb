import Utterance.Repertoire

set_option autoImplicit false

/-!
# The built-in commands

Two commands are there from the start: a reminder, with its time before or after the words to be
reminded of, and a question for the weather.

## Main definitions

* `Utterance.Repertoire.builtin`: the repertoire of the two commands.
-/

namespace Utterance

/-- The words that announce a reminder. -/
def remindMeTo : Slot := .fixed ["remind", "me", "to"]

/-- A reminder with its time in front, as in `tomorrow remind me to buy milk`. -/
def timeFirst : Grammar where
  slots := [.time "time", remindMeTo, .greedy "reminder"]
  wellFormed := wellFormed_of_firstFault?_eq_none (by decide)

/-- A reminder with its time at the end, as in `remind me to buy milk tomorrow`. -/
def timeLast : Grammar where
  slots := [remindMeTo, .greedy "reminder", .time "time"]
  wellFormed := wellFormed_of_firstFault?_eq_none (by decide)

/-- The question for the weather. -/
def showWeather : Grammar where
  slots := [.fixed ["show", "me", "the", "weather"]]
  wellFormed := wellFormed_of_firstFault?_eq_none (by decide)

namespace Command

/-- The command to be reminded of something at a time. -/
def reminder : Command where
  name := "reminder"
  grammars := [timeFirst, timeLast]
  snakeCase := by decide
  ne_nil := by decide

/-- The command to show the weather. -/
def weather : Command where
  name := "weather"
  grammars := [showWeather]
  snakeCase := by decide
  ne_nil := by decide

end Command

/-- The built-in commands. -/
def Repertoire.builtin : Repertoire := ⟨[.reminder, .weather]⟩

end Utterance
