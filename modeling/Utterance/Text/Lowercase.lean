import Utterance.Text.Lowercase.Table

set_option autoImplicit false

/-!
# Lower case

Sentences are compared in lower case. Every character is mapped by itself, with two exceptions:
the capital letter I with a dot above becomes two characters, and the capital sigma has one small
form inside a word and another at its end.

## Main definitions

* `Utterance.Text.lowerChar`: the simple lower-case mapping of one character.
* `Utterance.Text.endsWord`: whether a sigma between two texts ends a word.
* `Utterance.Text.lowerFrom`: the lower-case form of a text that follows another.
* `Utterance.Text.lowercase`: the lower-case form of a text.

## Main results

* `Utterance.Text.lowerChar_of_not_covers`: a character outside the table stays as it is.
-/

namespace Utterance.Text

/-- The small letter of a capital letter; any other character is its own. -/
def lowerChar (c : Char) : Char :=
  match lowerRuns.find? fun r => r.covers c.toNat with
  | some r => Char.ofNat (r.apply c.toNat)
  | none => c

/-- A character outside of the table is its own small letter. -/
theorem lowerChar_of_not_covers {c : Char} (h : ∀ r ∈ lowerRuns, r.covers c.toNat = false) :
    lowerChar c = c := by
  have : lowerRuns.find? (fun r => r.covers c.toNat) = none := by
    simpa [List.find?_eq_none] using h
  simp [lowerChar, this]

/-- Whether the first character of `cs` that a word cannot pass over is a cased letter. -/
def meetsLetter (cs : List Char) : Bool :=
  (cs.dropWhile caseIgnorable.has).head?.any cased.has

/-- Whether a sigma stands at the end of a word: a letter comes before it and none after it.
`before` is read backwards from the sigma, `after` forwards. -/
def endsWord (before after : List Char) : Bool :=
  meetsLetter before && !meetsLetter after

/-- The lower-case form of `c` between `before`, read backwards, and `after`. -/
def lowerAt (before : List Char) (c : Char) (after : List Char) : List Char :=
  if c = 'Σ' then [if endsWord before after then 'ς' else 'σ']
  else if c = 'İ' then ['i', '\u0307']
  else [lowerChar c]

/-- The lower-case form of a text that follows `before`, the characters before it read
backwards. -/
def lowerFrom (before : List Char) : List Char → List Char
  | [] => []
  | c :: after => lowerAt before c after ++ lowerFrom (c :: before) after

/-- The lower-case form of a text. -/
def lowercase (s : String) : String := String.ofList (lowerFrom [] s.toList)

end Utterance.Text
