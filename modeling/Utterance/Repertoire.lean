import Utterance.Command
import Utterance.Text.Lowercase

set_option autoImplicit false

/-!
# Repertoires

A repertoire is a list of commands in the order in which they were added. A sentence is recognized
in lower case: of the commands that fit, one with data wins over one without, and among equals the
one added first.

## Main definitions

* `Utterance.Repertoire`: commands in the order of their addition.
* `Utterance.Repertoire.add`, `Utterance.Repertoire.define`: adding a command.
* `Utterance.Recognition`: a command with what it gets out of a sentence.
* `Utterance.Repertoire.recognize`: the recognition of a sentence.
-/

namespace Utterance

open Calendar Text

/-- Commands in the order of their addition. -/
structure Repertoire where
  /-- The commands. -/
  commands : List Command

/-- A command with what it gets out of a sentence. -/
structure Recognition where
  /-- The command. -/
  command : Command
  /-- What it gets out of the sentence. -/
  extract : Extract

/-- Whether a recognition has a higher rank than another. -/
def Recognition.outranks (r s : Recognition) : Bool :=
  s.extract.quality.rank < r.extract.quality.rank

namespace Repertoire

/-- No commands. -/
def empty : Repertoire := ⟨[]⟩

/-- The number of commands. -/
def size (r : Repertoire) : Nat := r.commands.length

/-- Whether there are no commands. -/
def isEmpty (r : Repertoire) : Bool := r.commands.isEmpty

/-- Adds a command after the others. -/
def add (r : Repertoire) (command : Command) : Repertoire := ⟨r.commands ++ [command]⟩

/-- Adds the command of a name and rows of slots, unless they have a fault. -/
def define (r : Repertoire) (name : String) (rows : List (List Slot)) :
    Except DefinitionFault Repertoire :=
  match Command.ofSlots name rows with
  | .error fault => .error fault
  | .ok command => .ok (r.add command)

/-- The better of the best recognition so far and a later one. -/
def better (best : Option Recognition) (later : Recognition) : Recognition :=
  match best with
  | none => later
  | some best => if later.outranks best then later else best

/-- The best recognition among `best` and those of the commands. -/
def bestOf (sentence : String) (now : Timestamp) (best : Option Recognition) :
    List Command → Except RecognitionFailure (Option Recognition)
  | [] => .ok best
  | command :: commands =>
    match command.extract sentence now with
    | .error failure => .error failure
    | .ok none => bestOf sentence now best commands
    | .ok (some extract) => bestOf sentence now (some (better best ⟨command, extract⟩)) commands

/-- The recognition of a sentence, with times seen from `now`. -/
def recognize (r : Repertoire) (sentence : String) (now : Timestamp) :
    Except RecognitionFailure (Option Recognition) :=
  bestOf (lowercase sentence) now none r.commands

end Repertoire

end Utterance
