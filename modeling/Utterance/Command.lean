import Utterance.Extract
import Utterance.Text.Words

set_option autoImplicit false

/-!
# Commands

A command has a name and one or more sentence shapes, which are tried in order.

## Main definitions

* `Utterance.Command`: a named command.
* `Utterance.Command.ofGrammars`: the command of a name and grammars, or its first fault.
* `Utterance.Command.ofSlots`: the command of a name and rows of slots, or the first fault.
* `Utterance.Command.extract`: what the first fitting grammar gets out of a sentence.
-/

namespace Utterance

open Calendar Text

/-- A named command. -/
structure Command where
  /-- The name. -/
  name : String
  /-- The sentence shapes, in the order in which they are tried. -/
  grammars : List Grammar
  /-- The name is in snake case. -/
  snakeCase : isSnakeCase name = true
  /-- There is a sentence shape. -/
  ne_nil : grammars ≠ []

namespace Command

/-- The command of a name and grammars. A bad name is a fault before missing grammars are. -/
def ofGrammars (name : String) (grammars : List Grammar) : Except DefinitionFault Command :=
  if hname : isSnakeCase name = true then
    if hne : grammars ≠ [] then .ok ⟨name, grammars, hname, hne⟩
    else .error (.noGrammars name)
  else .error (.nameNotSnakeCase name)

/-- The commands of a name and grammars are those that have them. -/
theorem ofGrammars_eq_ok_iff {name : String} {grammars : List Grammar} {command : Command} :
    ofGrammars name grammars = .ok command ↔ command.name = name ∧ command.grammars = grammars := by
  unfold ofGrammars
  constructor
  · intro h
    split at h
    · split at h
      · cases h
        exact ⟨rfl, rfl⟩
      · cases h
    · cases h
  · rintro ⟨rfl, rfl⟩
    rw [dif_pos command.snakeCase, dif_pos command.ne_nil]

/-- The grammars of rows of slots, or the first fault of the first row that has one. -/
def grammarsOf : List (List Slot) → Except DefinitionFault (List Grammar)
  | [] => .ok []
  | slots :: rows =>
    match Grammar.ofSlots slots with
    | .error fault => .error fault
    | .ok grammar =>
      match grammarsOf rows with
      | .error fault => .error fault
      | .ok grammars => .ok (grammar :: grammars)

/-- The command of a name and rows of slots. Faults of the rows come before those of the name. -/
def ofSlots (name : String) (rows : List (List Slot)) : Except DefinitionFault Command :=
  match grammarsOf rows with
  | .error fault => .error fault
  | .ok grammars => ofGrammars name grammars

/-- What the first grammar with the shape of the words gets out of them. -/
def firstExtract (words : List String) (now : Timestamp) :
    List Grammar → Except RecognitionFailure (Option Extract)
  | [] => .ok none
  | grammar :: grammars =>
    match grammar.extract words now with
    | .error failure => .error failure
    | .ok (some extract) => .ok (some extract)
    | .ok none => firstExtract words now grammars

/-- What a command gets out of a sentence, taken as it is written. -/
def extract (command : Command) (sentence : String) (now : Timestamp) :
    Except RecognitionFailure (Option Extract) :=
  firstExtract (words sentence) now command.grammars

end Command

end Utterance
