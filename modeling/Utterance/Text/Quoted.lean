import Utterance.Text.Quoted.Table

set_option autoImplicit false

/-!
# Quoted text

Messages show a text between double quotes. Quotes, backslashes and the common controls are
written with a backslash, and every other character that has no visible form of its own is written
as its code point in hexadecimal digits between braces.

## Main definitions

* `Utterance.Text.isVisible`: whether a character is seen as one of its own.
* `Utterance.Text.escape`: the written form of one character.
* `Utterance.Text.quoted`: the written form of a text.
-/

namespace Utterance.Text

/-- A code point in lower-case hexadecimal digits, between braces. -/
def codePointEscape (c : Char) : List Char :=
  ['\\', 'u', '\x7b'] ++ Nat.toDigits 16 c.toNat ++ ['\x7d']

/-- Whether a reader would see `c` as a character of its own. -/
def isVisible (c : Char) : Bool :=
  !(extending.has c || ignorable.has c || unprintable.has c)

/-- The written form of one character inside a quoted text. -/
def escape (c : Char) : List Char :=
  if c = '\x00' then ['\\', '0']
  else if c = '\t' then ['\\', 't']
  else if c = '\r' then ['\\', 'r']
  else if c = '\n' then ['\\', 'n']
  else if c = '\\' then ['\\', '\\']
  else if c = '"' then ['\\', '"']
  else if isVisible c then [c]
  else codePointEscape c

/-- A text between double quotes, as messages show it. -/
def quoted (s : String) : String :=
  String.ofList ('"' :: s.toList.flatMap escape ++ ['"'])

end Utterance.Text
