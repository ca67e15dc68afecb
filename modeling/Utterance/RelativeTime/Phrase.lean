import Utterance.RelativeTime
import Utterance.Text.Digits

set_option autoImplicit false

/-!
# Time phrases

The phrases that name a relative time: `today`, `tonight`, `tomorrow`, `noon`, `on friday`,
`at 5:30pm`, and a day before a clock time such as `tomorrow at 9am`. Words that hold spaces count
as the words between the spaces, so each word of a phrase is judged alone and the phrase by the
kinds of its words.

## Main definitions

* `Utterance.TimeWord`: what a word can mean in a time phrase.
* `Utterance.TimeWord.ofChars`: the meaning of a word.
* `Utterance.RelativeTime.ofTimeWords?`: the relative time of a whole phrase.
* `Utterance.RelativeTime.ofWords?`, `Utterance.RelativeTime.isBegun`: whether words are a time
  phrase, and whether they are the beginning of one that ends in a clock time or a weekday.
-/

namespace Utterance

open Calendar Text

/-! ## Words -/

/-- What a word can mean in a time phrase. -/
inductive TimeWord where
  /-- The word `today`. -/
  | today
  /-- The word `tonight`. -/
  | tonight
  /-- The word `tomorrow`. -/
  | tomorrow
  /-- The word `noon`. -/
  | noon
  /-- The word `on`, before a weekday. -/
  | onDay
  /-- The word `at`, before a clock time. -/
  | atTime
  /-- A weekday, `plain` when it is spelled in lower case. -/
  | weekday (weekday : Weekday) (plain : Bool)
  /-- A clock time such as `5:30pm`, by the hours and minutes after midnight. -/
  | clock (hour minute : Nat)
  /-- Any other word. -/
  | other
  deriving DecidableEq

namespace TimeWord

/-- The words that stand for themselves. -/
def keywords : List (String × TimeWord) :=
  [("today", today), ("tonight", tonight), ("tomorrow", tomorrow), ("noon", noon), ("on", onDay),
   ("at", atTime)]

/-- The minutes after a colon, always two digits, and the text after them; without a colon there
are none. -/
def minutePart : List Char → Option (Nat × List Char)
  | ':' :: a :: b :: rest =>
    if a.isDigit && b.isDigit then some (numeral [a, b], rest) else none
  | rest => some (0, rest)

/-- Whether a clock time is one of the afternoon, read off its ending. -/
def afternoon? : List Char → Option Bool
  | ['a', 'm'] => some false
  | ['p', 'm'] => some true
  | _ => none

/-- Hour and minute of a clock time: one or two digits up to 23, minutes up to 59 after a colon,
and `am` or `pm`. An hour from 1 to 12 is moved by twelve hours in the afternoon, 12 itself
included. -/
def clockTime? (cs : List Char) : Option (Nat × Nat) := do
  let digits := (cs.take 2).takeWhile Char.isDigit
  let (minute, rest) ← minutePart (cs.drop digits.length)
  let afternoon ← afternoon? rest
  let hour := numeral digits
  if digits = [] ∨ 23 < hour ∨ 59 < minute then none
  else if afternoon ∧ 1 ≤ hour ∧ hour ≤ 12 then some (hour + 12, minute)
  else some (hour, minute)

/-- The meaning of a word. Weekdays may be spelled with capital letters. -/
def ofChars (cs : List Char) : TimeWord :=
  match keywords.lookup (String.ofList cs) with
  | some word => word
  | none =>
    let small := cs.map Char.toLower
    match Weekday.ofName? (String.ofList small) with
    | some w => weekday w (cs == small)
    | none =>
      match clockTime? cs with
      | some (hour, minute) => clock hour minute
      | none => other

/-- The meanings of the words between the spaces of `words`. -/
def ofWords (words : List String) : List TimeWord :=
  words.flatMap fun w => (w.toList.splitOn ' ').map ofChars

end TimeWord

/-! ## Phrases -/

namespace RelativeTime

/-- The relative time of a whole phrase. A day without a clock time has an hour of its own. Before
a clock time a weekday has to be in lower case. -/
def ofTimeWords? : List TimeWord → Option RelativeTime
  | [.today] => some ⟨.today, 14, 0⟩
  | [.tonight] => some ⟨.today, 18, 0⟩
  | [.tomorrow] => some ⟨.tomorrow, 9, 0⟩
  | [.noon] => some ⟨.today, 12, 0⟩
  | [.onDay, .weekday w _] => some ⟨.next w, 14, 0⟩
  | [.atTime, .clock hour minute] => some ⟨.today, hour, minute⟩
  | [.today, .atTime, .clock hour minute] => some ⟨.today, hour, minute⟩
  | [.tomorrow, .atTime, .clock hour minute] => some ⟨.tomorrow, hour, minute⟩
  | [.onDay, .weekday w true, .atTime, .clock hour minute] => some ⟨.next w, hour, minute⟩
  | _ => none

/-- Whether a phrase waits for a clock time or a weekday. -/
def awaitsWord : List TimeWord → Bool
  | [.onDay] => true
  | [.atTime] => true
  | [.today, .atTime] => true
  | [.tomorrow, .atTime] => true
  | [.onDay, .weekday _ true, .atTime] => true
  | _ => false

/-- The relative time that words name, if they are a time phrase. -/
def ofWords? (words : List String) : Option RelativeTime :=
  ofTimeWords? (TimeWord.ofWords words)

/-- Whether words are no time phrase yet but the beginning of one. -/
def isBegun (words : List String) : Bool := awaitsWord (TimeWord.ofWords words)

end RelativeTime

end Utterance
