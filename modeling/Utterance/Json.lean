set_option autoImplicit false

/-!
# JSON

JSON documents of texts, arrays and objects, written either in one line or with a line for every
item.

## Main definitions

* `Utterance.Json`: a document.
* `Utterance.Json.Layout`: the two ways to lay out a document.
* `Utterance.Json.quote`: a text between quotes, with its escapes.
* `Utterance.Json.text`: a written document.

## Main results

* `Utterance.Json.escapeChar_eq_self`: the characters that stand for themselves.
-/

namespace Utterance

/-- A JSON document of texts, arrays and objects. The members of an object keep their order. -/
inductive Json where
  /-- A text. -/
  | string (text : String)
  /-- A list of documents. -/
  | array (items : List Json)
  /-- Documents with names. -/
  | object (members : List (String × Json))

namespace Json

/-! ## Texts -/

/-- A digit of a hexadecimal number, in lower case. -/
def hexDigit (n : Nat) : Char := Nat.digitChar (n % 16)

/-- The written form of a character of a text: controls, quotes and backslashes are escaped. -/
def escapeChar (c : Char) : List Char :=
  if c = '"' then ['\\', '"']
  else if c = '\\' then ['\\', '\\']
  else if c = '\x08' then ['\\', 'b']
  else if c = '\x0c' then ['\\', 'f']
  else if c = '\n' then ['\\', 'n']
  else if c = '\r' then ['\\', 'r']
  else if c = '\t' then ['\\', 't']
  else if c.toNat < 0x20 then ['\\', 'u', '0', '0', hexDigit (c.toNat / 16), hexDigit c.toNat]
  else [c]

/-- A character that is no control, quote or backslash stands for itself. -/
theorem escapeChar_eq_self {c : Char} (hquote : c ≠ '"') (hbackslash : c ≠ '\\')
    (hcontrol : 0x20 ≤ c.toNat) : escapeChar c = [c] := by
  have hne {d : Char} (hd : d.toNat < 0x20) : c ≠ d := by
    rintro rfl
    omega
  have hlt : ¬ c.toNat < 0x20 := by omega
  simp only [escapeChar, if_neg hquote, if_neg hbackslash, if_neg hlt,
    if_neg (hne (show '\x08'.toNat < 0x20 by decide)),
    if_neg (hne (show '\x0c'.toNat < 0x20 by decide)),
    if_neg (hne (show '\n'.toNat < 0x20 by decide)),
    if_neg (hne (show '\r'.toNat < 0x20 by decide)),
    if_neg (hne (show '\t'.toNat < 0x20 by decide))]

/-- A text between quotes. -/
def quote (s : String) : List Char := '"' :: s.toList.flatMap escapeChar ++ ['"']

/-! ## Layout -/

/-- The two ways to lay out a document. -/
inductive Layout where
  /-- Everything in one line, without spaces. -/
  | compact
  /-- A line for every item, indented by two spaces for each level. -/
  | indented
  deriving DecidableEq

namespace Layout

/-- What stands before an item or a closing bracket at a depth. -/
def lineBreak : Layout → (depth : Nat) → List Char
  | compact, _ => []
  | indented, depth => '\n' :: List.replicate (2 * depth) ' '

/-- What stands between the name and the value of a member. -/
def colon : Layout → List Char
  | compact => [':']
  | indented => [':', ' ']

end Layout

/-- Written items between brackets, with commas between them. Nothing stands between the brackets
when there are no items. -/
def enclose (layout : Layout) (depth : Nat) (left right : Char) : List (List Char) → List Char
  | [] => [left, right]
  | item :: items =>
    left :: layout.lineBreak (depth + 1) ++ item ++
      items.flatMap (fun item => ',' :: layout.lineBreak (depth + 1) ++ item) ++
      layout.lineBreak depth ++ [right]

/-! ## Documents -/

mutual

/-- A document written at a depth. -/
def write (layout : Layout) (depth : Nat) : Json → List Char
  | string s => quote s
  | array items => enclose layout depth '[' ']' (writeItems layout (depth + 1) items)
  | object members =>
    enclose layout depth '\x7b' '\x7d' (writeMembers layout (depth + 1) members)
termination_by structural json => json

/-- The items of an array, written one by one. -/
def writeItems (layout : Layout) (depth : Nat) : List Json → List (List Char)
  | [] => []
  | item :: items => write layout depth item :: writeItems layout depth items
termination_by structural items => items

/-- The members of an object, written one by one. -/
def writeMembers (layout : Layout) (depth : Nat) : List (String × Json) → List (List Char)
  | [] => []
  | member :: members => writeMember layout depth member :: writeMembers layout depth members
termination_by structural members => members

/-- A member of an object: its name, a colon, its value. -/
def writeMember (layout : Layout) (depth : Nat) : String × Json → List Char
  | (name, value) => quote name ++ layout.colon ++ write layout depth value
termination_by structural member => member

end

/-- A written document. -/
def text (layout : Layout) (json : Json) : String := String.ofList (json.write layout 0)

end Json

end Utterance
