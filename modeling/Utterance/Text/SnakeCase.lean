set_option autoImplicit false

/-!
# Snake case

Names and keys are written in snake case: lower-case ASCII letters and digits in one or more
groups, single underscores between the groups, and a letter in front.

## Main definitions

* `Utterance.Text.isGroupChar`: the characters of a group.
* `Utterance.Text.isSnakeCase`: whether a text is in snake case.
-/

namespace Utterance.Text

/-- A lower-case ASCII letter. -/
def isSmallLetter (c : Char) : Bool := 'a' ≤ c && c ≤ 'z'

/-- A lower-case ASCII letter or an ASCII digit. -/
def isGroupChar (c : Char) : Bool := isSmallLetter c || ('0' ≤ c && c ≤ '9')

/-- Whether the characters form groups with single underscores between them, after a letter. -/
def isSnakeCaseChars (cs : List Char) : Bool :=
  cs.head?.any isSmallLetter && (cs.splitOn '_').all fun g => !g.isEmpty && g.all isGroupChar

/-- Whether `s` is in snake case. -/
def isSnakeCase (s : String) : Bool := isSnakeCaseChars s.toList

end Utterance.Text
