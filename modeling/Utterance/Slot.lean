import Utterance.RelativeTime.Phrase
import Utterance.Text.Quoted
import Utterance.Text.Words

set_option autoImplicit false

/-!
# Slots

A sentence shape is a row of slots. A slot takes a run of words: a fixed phrase takes exactly its
own words, a greedy slot any words, a time slot the words of a time phrase. Greedy and time slots
have a key under which the words, or the time they name, are kept.

## Main definitions

* `Utterance.Slot`: the three kinds of slots.
* `Utterance.Slot.status`: what a slot makes of a run of words that may go on.
* `Utterance.RecognitionFailure`: what can go wrong while a sentence is recognized.
* `Utterance.timeNamed`: the timestamp that words name.
* `Utterance.Value`: what a slot keeps.
* `Utterance.Slot.value`: the value of the words a slot has taken.

## Main results

* `Utterance.Slot.status_eq_complete_iff`: the status of a run is `complete` exactly when the run
  is.
-/

namespace Utterance

open Calendar Text

/-! ## Failures -/

/-- What can go wrong while a sentence is recognized. -/
inductive RecognitionFailure where
  /-- The words taken by a time slot are no time phrase. -/
  | malformedTime (words : List String)
  /-- A greedy slot follows another, so nothing tells where the first one ends. -/
  | greedyAfterGreedy (key : String)
  /-- The calendar ends before the time meant. -/
  | calendarEnd
  deriving DecidableEq

namespace RecognitionFailure

/-- The wording of a failure. -/
def message : RecognitionFailure → String
  | malformedTime words => "Malformed time expression: " ++ " ".intercalate words
  | greedyAfterGreedy key =>
    "Grammar configuration error: greedy slot followed by greedy slot Some(" ++ quoted key ++ ")"
  | calendarEnd => "the calendar ends before the time meant"

end RecognitionFailure

/-- The timestamp that words name, seen from `now`. -/
def timeNamed (words : List String) (now : Timestamp) : Except RecognitionFailure Timestamp :=
  match RelativeTime.ofWords? words with
  | none => .error (.malformedTime words)
  | some t =>
    match t.resolve? now with
    | none => .error .calendarEnd
    | some stamp => .ok stamp

/-! ## Values -/

/-- What a slot keeps. -/
inductive Value where
  /-- Words, as they stand in the sentence. -/
  | words (words : List String)
  /-- A point in time. -/
  | time (time : Timestamp)
  deriving DecidableEq

namespace Value

/-- The words of a value, if it holds words. -/
def words? : Value → Option (List String)
  | words ws => some ws
  | time _ => none

/-- The time of a value, if it holds a time. -/
def time? : Value → Option Timestamp
  | words _ => none
  | time t => some t

end Value

/-! ## Slots -/

/-- The kinds of slots. -/
inductive Slot where
  /-- Exactly these words. -/
  | fixed (phrase : List String)
  /-- Any words, up to the end of the sentence or to what the next slot takes. -/
  | greedy (key : String)
  /-- The words of a time phrase. -/
  | time (key : String)
  deriving DecidableEq

/-- What a slot makes of a run of words that may go on. -/
inductive Status where
  /-- The slot takes neither the run nor any run that begins with it. -/
  | rejected
  /-- The run may be the beginning of one that the slot takes. -/
  | begun
  /-- The slot takes the run. -/
  | complete
  deriving DecidableEq

namespace Slot

/-- The fixed phrase made of the words of a text. -/
def ofPhrase (phrase : String) : Slot := fixed (Text.words phrase)

/-- The key under which the slot keeps its value. -/
def key? : Slot → Option String
  | fixed _ => none
  | greedy key => some key
  | time key => some key

/-- Whether the slot takes any words. -/
def isGreedy : Slot → Bool
  | greedy _ => true
  | _ => false

/-- Whether the slot is a fixed phrase without words. -/
def isEmptyPhrase : Slot → Bool
  | fixed phrase => phrase.isEmpty
  | _ => false

/-- Whether the run alone tells that the slot takes it. For a greedy slot it never does. -/
def isComplete : Slot → List String → Bool
  | fixed phrase, run => phrase == run
  | greedy _, _ => false
  | time _, run => (RelativeTime.ofWords? run).isSome

/-- Whether the slot takes the run or may take a longer one. -/
def isOpen : Slot → List String → Bool
  | fixed phrase, run => run.isPrefixOf phrase
  | greedy _, _ => true
  | time _, run => RelativeTime.isBegun run || (RelativeTime.ofWords? run).isSome

/-- What the slot makes of a run of words. -/
def status (slot : Slot) (run : List String) : Status :=
  if !slot.isOpen run then .rejected
  else if slot.isComplete run then .complete
  else .begun

/-- A run that the slot takes is not rejected. -/
theorem isOpen_of_isComplete {slot : Slot} {run : List String} (h : slot.isComplete run = true) :
    slot.isOpen run = true := by
  cases slot with
  | fixed phrase =>
    rw [isComplete, beq_iff_eq] at h
    subst h
    simp [isOpen]
  | greedy => rfl
  | time =>
    rw [isComplete] at h
    simp [isOpen, h]

/-- The status is complete exactly when the run alone tells that the slot takes it. -/
theorem status_eq_complete_iff {slot : Slot} {run : List String} :
    slot.status run = .complete ↔ slot.isComplete run = true := by
  constructor
  · intro h
    by_cases hc : slot.isComplete run = true
    · exact hc
    · by_cases ho : slot.isOpen run = true <;> simp [status, hc, ho] at h
  · intro h
    simp [status, h, isOpen_of_isComplete h]

/-- The value of the words a slot has taken. Only a time slot can fail. -/
def value (slot : Slot) (run : List String) (now : Timestamp) : Except RecognitionFailure Value :=
  match slot with
  | fixed _ => .ok (.words run)
  | greedy _ => .ok (.words run)
  | time _ =>
    match timeNamed run now with
    | .error failure => .error failure
    | .ok stamp => .ok (.time stamp)

end Slot

end Utterance
