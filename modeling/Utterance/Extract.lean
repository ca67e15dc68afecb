import Utterance.Bindings
import Utterance.Grammar
import Utterance.Grammar.Cut

set_option autoImplicit false

/-!
# Extracts

What a grammar gets out of a sentence that has its shape: the values of its keys, or nothing but
the fact that the shape fits. An extract with data outranks one without.

## Main definitions

* `Utterance.Extract`: what a grammar gets out of a sentence.
* `Utterance.Quality`: the rank of an extract.
* `Utterance.keepAll`: the values of segments at a reference time.
* `Utterance.Grammar.extract`: the extract of a grammar from words.
-/

namespace Utterance

open Calendar

/-- What a grammar gets out of a sentence that has its shape. -/
inductive Extract where
  /-- The shape fits and has no keys. -/
  | noData
  /-- The values of the keys. -/
  | data (values : Bindings)
  deriving DecidableEq

/-- The rank of an extract. -/
inductive Quality where
  /-- Without values. -/
  | noData
  /-- With values. -/
  | data
  deriving DecidableEq

/-- The place of a quality, from the lowest upwards. -/
def Quality.rank : Quality → Nat
  | noData => 0
  | data => 1

namespace Extract

/-- The extract of some bindings: without data when there are none. -/
def ofBindings (values : Bindings) : Extract := if values.isEmpty then noData else data values

/-- Whether the extract has values. -/
def quality : Extract → Quality
  | noData => .noData
  | data _ => .data

/-- The values by key. -/
def values : Extract → Bindings
  | noData => .empty
  | data values => values

/-- The value of a key. -/
def get? (e : Extract) (key : String) : Option Value := e.values.get? key

end Extract

/-- Adds the value of a segment under the key of its slot, if the slot has one. -/
def keep (now : Timestamp) (kept : Bindings) (segment : Segment) :
    Except RecognitionFailure Bindings :=
  match segment.slot.key? with
  | none => .ok kept
  | some key =>
    match segment.slot.value segment.words now with
    | .error failure => .error failure
    | .ok value => .ok (kept.insert key value)

/-- Adds the values of segments, from left to right. -/
def keepAll (now : Timestamp) (kept : Bindings) : List Segment → Except RecognitionFailure Bindings
  | [] => .ok kept
  | segment :: segments =>
    match keep now kept segment with
    | .error failure => .error failure
    | .ok kept => keepAll now kept segments

namespace Grammar

/-- The extract of a grammar from words, seen from `now`; `none` when the words do not have its
shape. The values of the slots before the end of the cut are needed in either case. -/
def extract (grammar : Grammar) (words : List String) (now : Timestamp) :
    Except RecognitionFailure (Option Extract) :=
  let c := cut grammar.slots words
  match keepAll now .empty c.segments with
  | .error failure => .error failure
  | .ok values =>
    match c.ending with
    | .finished => .ok (some (.ofBindings values))
    | .stopped => .ok none
    | .failed failure => .error failure

end Grammar

end Utterance
