import Utterance.Calendar.Timestamp
import Utterance.Text.Digits
import Utterance.Text.Words

set_option autoImplicit false

/-!
# Reading timestamps

Reading is more lenient than writing. Fields may lack leading zeros, blanks may stand before every
field and every mark, the sign of the year is optional, and a fraction may have any number of
digits, of which nine count. Each field is held against its own bounds as soon as it is read; that
the day exists is checked last, after the end of the text.

## Main definitions

* `Utterance.Calendar.ReadFault`: what keeps a text from being a timestamp.
* `Utterance.Calendar.Timestamp.ofText`: the timestamp that a text names.
-/

namespace Utterance.Calendar

open Utterance.Text

/-- What keeps a text from being a timestamp. -/
inductive ReadFault where
  /-- Another character stands where a digit or a mark is due. -/
  | unexpected
  /-- The text ends where a digit or a mark is due. -/
  | ended
  /-- A number is outside its bounds, or the day does not exist. -/
  | outOfRange
  /-- The text goes on after the timestamp. -/
  | trailing
  deriving DecidableEq

namespace ReadFault

/-- The wording of a fault. -/
def message : ReadFault → String
  | unexpected => "input contains invalid characters"
  | ended => "premature end of input"
  | outOfRange => "input is out of range"
  | trailing => "trailing input"

end ReadFault

namespace Reading

/-- A number of at least one and at most `limit` digits, and the text after it. -/
def number (limit : Nat) (cs : List Char) : Except ReadFault (Nat × List Char) :=
  match cs with
  | [] => .error .ended
  | c :: _ =>
    if c.isDigit then
      let digits := (cs.take limit).takeWhile Char.isDigit
      .ok (numeral digits, cs.drop digits.length)
    else .error .unexpected

/-- The mark `m`, after blanks; the text after it. -/
def mark (m : Char) (cs : List Char) : Except ReadFault (List Char) :=
  match cs.dropWhile isBlank with
  | [] => .error .ended
  | c :: rest => if c = m then .ok rest else .error .unexpected

/-- A number of one or two digits from `low` to `high`, after blanks; the text after it. -/
def field (low high : Nat) (cs : List Char) : Except ReadFault (Nat × List Char) := do
  let (n, rest) ← number 2 (cs.dropWhile isBlank)
  if low ≤ n ∧ n ≤ high then .ok (n, rest) else .error .outOfRange

/-- The years that a field can hold: those of 32 bits. -/
def inYearField (year : Int) : Bool := -2147483648 ≤ year && year ≤ 2147483647

/-- A year, after blanks: four digits at most, or any number of digits after a sign. -/
def year (cs : List Char) : Except ReadFault (Int × List Char) := do
  let (n, rest) ← match cs.dropWhile isBlank with
    | '-' :: digits => do
      let (n, rest) ← number digits.length digits
      pure (-(n : Int), rest)
    | '+' :: digits => do
      let (n, rest) ← number digits.length digits
      pure ((n : Int), rest)
    | digits => do
      let (n, rest) ← number 4 digits
      pure ((n : Int), rest)
  if inYearField n then .ok (n, rest) else .error .outOfRange

/-- The digits of a fraction as nanoseconds: the first nine count, and zeros stand for those that
are missing. -/
def nanoseconds (digits : List Char) : Nat :=
  numeral ((digits ++ List.replicate 9 '0').take 9)

/-- The nanoseconds after a point, and the text after all of its digits. Without a point there are
none. -/
def fraction (cs : List Char) : Except ReadFault (Nat × List Char) :=
  match cs with
  | '.' :: rest => do
    let _ ← number 9 rest
    .ok (nanoseconds (rest.takeWhile Char.isDigit), rest.dropWhile Char.isDigit)
  | _ => .ok (0, cs)

/-- The time of day of the numbers in a text, where the second 60 is a leap second. -/
def timeOfDay? (hour minute second nanosecond : Nat) : Option TimeOfDay :=
  if second = 60 then TimeOfDay.of? hour minute 59 (nanosPerSecond + nanosecond)
  else TimeOfDay.of? hour minute second nanosecond

/-- A timestamp that takes up the whole text, blanks at the end apart. -/
def timestamp (cs : List Char) : Except ReadFault Timestamp := do
  let (year, cs) ← year cs
  let cs ← mark '-' cs
  let (month, cs) ← field 1 12 cs
  let cs ← mark '-' cs
  let (day, cs) ← field 1 31 cs
  let cs ← mark 'T' cs
  let (hour, cs) ← field 0 23 cs
  let cs ← mark ':' cs
  let (minute, cs) ← field 0 59 cs
  let cs ← mark ':' cs
  let (second, cs) ← field 0 60 cs
  let (nanosecond, cs) ← fraction cs
  if cs.dropWhile isBlank ≠ [] then
    throw .trailing
  match Date.of? year month day, timeOfDay? hour minute second nanosecond with
  | some date, some time => pure ⟨date, time⟩
  | _, _ => throw .outOfRange

end Reading

/-- The timestamp that a text names. -/
def Timestamp.ofText (s : String) : Except ReadFault Timestamp := Reading.timestamp s.toList

end Utterance.Calendar
