import Utterance.Calendar.Timestamp.Text
import Utterance.Json
import Utterance.Repertoire

set_option autoImplicit false

/-!
# Actions

What a recognized sentence asks for, as a document for other programs:
an object with the name of the action and its inputs by key.

## Main definitions

* `Utterance.Action`: a name and inputs.
* `Utterance.Action.ofRecognition`: the action of a recognized sentence.
* `Utterance.Action.document`: the action as a JSON document.
-/

namespace Utterance

/-- What a recognized sentence asks for. -/
structure Action where
  /-- The name of the action. -/
  name : String
  /-- The inputs by key. -/
  inputs : Bindings
  deriving DecidableEq

/-- A value as a document: words are an array of texts, a time is a text. -/
def Value.document : Value → Json
  | words ws => .array (ws.map .string)
  | time t => .string t.text

namespace Action

/-- The action of a recognized sentence is named after its command. -/
def ofRecognition (r : Recognition) : Action :=
  ⟨r.command.name ++ "_action", r.extract.values⟩

/-- The action as a document. -/
def document (a : Action) : Json :=
  .object
    [("action", .string a.name),
     ("inputs", .object (a.inputs.entries.map fun e => (e.1, e.2.document)))]

/-- The written document of the action. -/
def text (a : Action) (layout : Json.Layout) : String := a.document.text layout

end Action

end Utterance
