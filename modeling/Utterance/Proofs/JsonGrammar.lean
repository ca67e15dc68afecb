import Mathlib.Data.List.Basic
import Utterance.Json

set_option autoImplicit false

/-!
# The grammar of JSON

The texts that spell a document of texts, arrays and objects. Characters of a text stand for
themselves or are escaped by a letter or by a code of four hexadecimal digits, beyond the first
65536 characters by two codes. Blanks may stand around every document and every name.

A reader goes through a spelled text once, from left to right. It keeps the arrays and objects that
are open on a stack, and has the document when the text ends, so that a text spells no more than
one document.

## Main definitions

* `Utterance.Json.SpellsChars`: how the characters of a text are spelled between its quotes.
* `Utterance.Json.Spells`: how a document is spelled.
* `Utterance.Json.Reader.step`: what a reader does at a character.
* `Utterance.Json.ofChars?`: the document that is read.

## Main results

* `Utterance.Json.Reader.run_of_spells`: a reader gets from where a document is due to where it
  is done, with any stack.
* `Utterance.Json.Spells.unique`: a text spells one document.
-/

namespace Utterance.Json

/-! ## Spelled texts -/

/-- The letters that escape a character, with the characters. -/
def shortEscapes : List (Char × Char) :=
  [('"', '"'), ('\\', '\\'), ('/', '/'), ('b', '\x08'), ('f', '\x0c'), ('n', '\n'), ('r', '\r'),
    ('t', '\t')]

/-- The value of a hexadecimal digit. -/
def hexValue? (c : Char) : Option ℕ :=
  if '0' ≤ c ∧ c ≤ '9' then some (c.toNat - '0'.toNat)
  else if 'a' ≤ c ∧ c ≤ 'f' then some (c.toNat - 'a'.toNat + 10)
  else if 'A' ≤ c ∧ c ≤ 'F' then some (c.toNat - 'A'.toNat + 10)
  else none

/-- The number that hexadecimal digits name. -/
def hexNumber? (digits : List Char) : Option ℕ :=
  digits.foldlM (fun n c => (hexValue? c).map (16 * n + ·)) 0

/-- Whether a code is the first of a pair. -/
def IsHigh (n : ℕ) : Prop := 0xD800 ≤ n ∧ n < 0xDC00

/-- Whether a code is the second of a pair. -/
def IsLow (n : ℕ) : Prop := 0xDC00 ≤ n ∧ n < 0xE000

instance (n : ℕ) : Decidable (IsHigh n) := inferInstanceAs (Decidable (_ ∧ _))

instance (n : ℕ) : Decidable (IsLow n) := inferInstanceAs (Decidable (_ ∧ _))

/-- The first code of a pair is no character by itself. -/
lemma IsHigh.not_isValidChar {n : ℕ} (h : IsHigh n) : ¬ n.isValidChar := by
  obtain ⟨hle, hlt⟩ := h
  simp only [Nat.isValidChar]
  omega

/-- The character with a pair of codes. -/
def pairChar (high low : ℕ) : Char := Char.ofNat (0x10000 + (high - 0xD800) * 0x400 + (low - 0xDC00))

/-- How a character of a text is spelled. -/
inductive SpellsChar : List Char → Char → Prop
  /-- As it is, if it is no quote, backslash or control. -/
  | plain {c : Char} (hquote : c ≠ '"') (hbackslash : c ≠ '\\') (hcontrol : 0x20 ≤ c.toNat) :
    SpellsChar [c] c
  /-- By a backslash and a letter. -/
  | short {e c : Char} (hescape : shortEscapes.lookup e = some c) : SpellsChar ['\\', e] c
  /-- By its code. -/
  | code {digits : List Char} {n : ℕ} (hlength : digits.length = 4)
    (hnumber : hexNumber? digits = some n) (hvalid : n.isValidChar) :
    SpellsChar ('\\' :: 'u' :: digits) (Char.ofNat n)
  /-- By a pair of codes. -/
  | pair {digits digits' : List Char} {high low : ℕ}
    (hlength : digits.length = 4) (hnumber : hexNumber? digits = some high) (hhigh : IsHigh high)
    (hlength' : digits'.length = 4) (hnumber' : hexNumber? digits' = some low) (hlow : IsLow low) :
    SpellsChar ('\\' :: 'u' :: digits ++ '\\' :: 'u' :: digits') (pairChar high low)

/-- How the characters of a text are spelled, one after another. -/
inductive SpellsChars : List Char → List Char → Prop
  /-- No characters. -/
  | nil : SpellsChars [] []
  /-- A character and those after it. -/
  | cons {cs rest : List Char} {c : Char} {text : List Char} (hchar : SpellsChar cs c)
    (hrest : SpellsChars rest text) : SpellsChars (cs ++ rest) (c :: text)

/-! ## Spelled documents -/

/-- Whether a character may stand around documents and names. -/
def isBlank (c : Char) : Bool := c ∈ [' ', '\t', '\n', '\r']

/-- The spelling of a member of an object: how its name and its value are spelled. -/
structure SpelledMember where
  /-- The spelling of the name. -/
  nameText : List Char
  /-- The name. -/
  name : String
  /-- The spelling of the value. -/
  valueText : List Char
  /-- The value. -/
  value : Json

namespace SpelledMember

/-- The spelling of a member, with its colon. -/
def chars (m : SpelledMember) : List Char := m.nameText ++ ':' :: m.valueText

/-- The member that is spelled. -/
def member (m : SpelledMember) : String × Json := (m.name, m.value)

end SpelledMember

/-- How a document is spelled, with blanks around it. -/
inductive Spells : List Char → Json → Prop
  /-- A text stands between quotes. -/
  | string {cs : List Char} {s : String} (hchars : SpellsChars cs s.toList) :
    Spells ('"' :: cs ++ ['"']) (.string s)
  /-- An array has its items between brackets, with commas between them. -/
  | array {items : List (List Char × Json)} {blanks : List Char}
    (hitems : ∀ i ∈ items, Spells i.1 i.2) (hblanks : ∀ b ∈ blanks, isBlank b = true) :
    Spells ('[' :: [','].intercalate (items.map Prod.fst) ++ blanks ++ [']'])
      (.array (items.map Prod.snd))
  /-- An object has its members between braces, with commas between them. -/
  | object {members : List SpelledMember} {blanks : List Char}
    (hnames : ∀ m ∈ members, Spells m.nameText (.string m.name))
    (hvalues : ∀ m ∈ members, Spells m.valueText m.value)
    (hblanks : ∀ b ∈ blanks, isBlank b = true) :
    Spells ('\x7b' :: [','].intercalate (members.map SpelledMember.chars) ++ blanks ++ ['\x7d'])
      (.object (members.map SpelledMember.member))
  /-- A blank may stand before a document. -/
  | blank_left {b : Char} {cs : List Char} {json : Json} (hblank : isBlank b = true)
    (hspells : Spells cs json) : Spells (b :: cs) json
  /-- A blank may stand after a document. -/
  | blank_right {b : Char} {cs : List Char} {json : Json} (hblank : isBlank b = true)
    (hspells : Spells cs json) : Spells (cs ++ [b]) json

/-! ## Reading -/

namespace Reader

/-- An array or object that is open. -/
inductive Frame where
  /-- An array with the items before the one that is read. -/
  | items (items : List Json)
  /-- An object with the members before the one whose name is read. -/
  | name (members : List (String × Json))
  /-- An object with the members before the one whose value is read, and the name of this one. -/
  | value (members : List (String × Json)) (name : String)

/-- Where a text stands between two of its characters, or within one. -/
inductive Escape where
  /-- Between two characters. -/
  | none
  /-- After a backslash. -/
  | letter
  /-- In a code, after some of its digits. The code before it waits for this one, if there is
  one. -/
  | code (high : Option ℕ) (digits : List Char)
  /-- Between the codes of a pair. -/
  | backslash (high : ℕ)
  /-- After the backslash of the second code of a pair. -/
  | mark (high : ℕ)
  deriving DecidableEq

/-- What a reader knows between two characters. The innermost frame is the first. -/
inductive State where
  /-- A document is due. -/
  | due (stack : List Frame)
  /-- In a text, after some characters. -/
  | text (chars : List Char) (escape : Escape) (stack : List Frame)
  /-- After a document. -/
  | done (json : Json) (stack : List Frame)

/-- The text after a code. -/
def stepCode (chars : List Char) (high : Option ℕ) (n : ℕ) : Option (List Char × Escape) :=
  match high with
  | none =>
    if n.isValidChar then some (chars ++ [Char.ofNat n], .none)
    else if IsHigh n then some (chars, .backslash n)
    else none
  | some high => if IsLow n then some (chars ++ [pairChar high n], .none) else none

/-- The text after a character between its quotes. -/
def stepText (chars : List Char) (escape : Escape) (c : Char) : Option (List Char × Escape) :=
  match escape with
  | .none =>
    if c = '\\' then some (chars, .letter)
    else if c.toNat < 0x20 then none
    else some (chars ++ [c], .none)
  | .letter =>
    if c = 'u' then some (chars, .code none [])
    else (shortEscapes.lookup c).map fun d => (chars ++ [d], .none)
  | .code high digits =>
    if digits.length < 3 then some (chars, .code high (digits ++ [c]))
    else (hexNumber? (digits ++ [c])).bind (stepCode chars high)
  | .backslash high => if c = '\\' then some (chars, .mark high) else none
  | .mark high => if c = 'u' then some (chars, .code (some high) []) else none

/-- What follows a character where a document is due. A bracket closes an array or object that has
nothing in it. -/
def stepDue (stack : List Frame) (c : Char) : Option State :=
  if isBlank c then some (.due stack)
  else if c = '"' then some (.text [] .none stack)
  else if c = '[' then some (.due (.items [] :: stack))
  else if c = '\x7b' then some (.due (.name [] :: stack))
  else
    match stack with
    | .items [] :: stack => if c = ']' then some (.done (.array []) stack) else none
    | .name [] :: stack => if c = '\x7d' then some (.done (.object []) stack) else none
    | _ => none

/-- What follows a character after a document. -/
def stepDone (json : Json) (stack : List Frame) (c : Char) : Option State :=
  if isBlank c then some (.done json stack)
  else
    match stack, json with
    | [], _ => none
    | .items items :: stack, _ =>
      if c = ',' then some (.due (.items (items ++ [json]) :: stack))
      else if c = ']' then some (.done (.array (items ++ [json])) stack)
      else none
    | .name members :: stack, .string name =>
      if c = ':' then some (.due (.value members name :: stack)) else none
    | .name _ :: _, _ => none
    | .value members name :: stack, _ =>
      if c = ',' then some (.due (.name (members ++ [(name, json)]) :: stack))
      else if c = '\x7d' then some (.done (.object (members ++ [(name, json)])) stack)
      else none

/-- What follows a character. -/
def step : State → Char → Option State
  | .due stack, c => stepDue stack c
  | .text chars escape stack, c =>
    if escape = .none ∧ c = '"' then some (.done (.string (String.ofList chars)) stack)
    else (stepText chars escape c).map fun next => .text next.1 next.2 stack
  | .done json stack, c => stepDone json stack c

/-- What follows a text, character by character. -/
def run (s : State) (cs : List Char) : Option State := cs.foldlM step s

/-- Without characters a reader stays where it is. -/
@[simp] lemma run_nil (s : State) : run s [] = some s := rfl

/-- A reader takes the first character and then the others. -/
@[simp] lemma run_cons (s : State) (c : Char) (cs : List Char) :
    run s (c :: cs) = (step s c).bind fun s => run s cs := rfl

/-- A reader takes one text and then the other. -/
lemma run_append (s : State) (cs rest : List Char) :
    run s (cs ++ rest) = (run s cs).bind fun s => run s rest := by
  simp [run, List.foldlM_append]

/-! ### Texts -/

variable {cs : List Char} {stack : List Frame}

/-- Four digits of a code are read before the code counts. -/
lemma run_code {digits chars : List Char} {n : ℕ} (high : Option ℕ) (hlength : digits.length = 4)
    (hnumber : hexNumber? digits = some n) :
    run (.text chars (.code high []) stack) digits =
      (stepCode chars high n).map fun next => .text next.1 next.2 stack := by
  obtain ⟨c₁, c₂, c₃, c₄, rfl⟩ := List.length_eq_four.1 hlength
  simp [step, stepText, hnumber]

/-- A spelled character of a text is read as this character. -/
lemma run_of_spellsChar {c : Char} (h : SpellsChar cs c) (chars : List Char) :
    run (.text chars .none stack) cs = some (.text (chars ++ [c]) .none stack) := by
  cases h with
  | plain hquote hbackslash hcontrol =>
    simp [step, stepText, hquote, hbackslash, Nat.not_lt.2 hcontrol]
  | @short e _ hescape =>
    have hletter : shortEscapes.lookup 'u' = none := by decide
    have hne : e ≠ 'u' := by
      rintro rfl
      simp [hletter] at hescape
    simp [step, stepText, hne, hescape]
  | code hlength hnumber hvalid =>
    simp [step, stepText, run_code none hlength hnumber, stepCode, hvalid]
  | pair hlength hnumber hhigh hlength' hnumber' hlow =>
    have hinvalid := hhigh.not_isValidChar
    simp [step, stepText, run_append, run_code none hlength hnumber, stepCode, hhigh, hinvalid,
      run_code (some _) hlength' hnumber', hlow]

/-- The spelled characters of a text are read one after another. -/
lemma run_of_spellsChars {text : List Char} (h : SpellsChars cs text) (chars : List Char) :
    run (.text chars .none stack) cs = some (.text (chars ++ text) .none stack) := by
  induction h generalizing chars with
  | nil => simp
  | cons hchar _ ih => simp [run_append, run_of_spellsChar hchar, ih]

/-! ### Documents -/

/-- Blanks where a reader passes over them. -/
lemma run_blanks {s : State} {blanks : List Char}
    (hstep : ∀ b, isBlank b = true → step s b = some s) (h : ∀ b ∈ blanks, isBlank b = true) :
    run s blanks = some s := by
  induction blanks with
  | nil => rfl
  | cons b blanks ih =>
    obtain ⟨hblank, hblanks⟩ := List.forall_mem_cons.1 h
    simp [hstep b hblank, ih hblanks]

/-- How a reader goes through parts between brackets, on top of a stack: the states where a part is
due after some parts, and where it is done, and the document after the right bracket. -/
structure Enclosure (α : Type) (stack : List Frame) where
  /-- The left bracket. -/
  left : Char
  /-- The right bracket. -/
  right : Char
  /-- Where a part is due. -/
  due : List α → State
  /-- After a part. -/
  done : List α → α → State
  /-- The document with the parts. -/
  document : List α → Json
  /-- A part is due after the left bracket. -/
  step_left : step (.due stack) left = some (due [])
  /-- A part is due after a comma. -/
  step_comma (xs : List α) (x : α) : step (done xs x) ',' = some (due (xs ++ [x]))
  /-- The brackets may have no part between them. -/
  step_right_nil : step (due []) right = some (.done (document []) stack)
  /-- The right bracket closes the document. -/
  step_right (xs : List α) (x : α) :
    step (done xs x) right = some (.done (document (xs ++ [x])) stack)
  /-- Blanks may stand where a part is due. -/
  step_due_blank (xs : List α) (b : Char) : isBlank b = true → step (due xs) b = some (due xs)
  /-- Blanks may stand after a part. -/
  step_done_blank (xs : List α) (x : α) (b : Char) :
    isBlank b = true → step (done xs x) b = some (done xs x)

namespace Enclosure

variable {α β : Type} (e : Enclosure α stack) {chars : β → List Char} {value : β → α}
  {parts : List β}

/-- Parts with commas between them are read one after another, if each of them is read. -/
lemma run_intercalate (hparts : ∀ p ∈ parts, ∀ xs, run (e.due xs) (chars p) =
      some (e.done xs (value p))) (hne : parts ≠ []) (before : List α) :
    ∃ xs x, parts.map value = xs ++ [x] ∧
      run (e.due before) ([','].intercalate (parts.map chars)) =
        some (e.done (before ++ xs) x) := by
  induction parts generalizing before with
  | nil => exact absurd rfl hne
  | cons p parts ih =>
    obtain ⟨hhead, htail⟩ := List.forall_mem_cons.1 hparts
    cases parts with
    | nil => exact ⟨[], value p, rfl, by simp [hhead before]⟩
    | cons p' parts =>
      obtain ⟨xs, x, hvalues, hrun⟩ := ih htail (List.cons_ne_nil _ _) (before ++ [value p])
      refine ⟨value p :: xs, x, by rw [List.map_cons, hvalues, List.cons_append], ?_⟩
      simp only [List.map_cons] at hrun ⊢
      rw [List.intercalate_cons_cons, run_append, run_append, hhead before]
      simp [e.step_comma, hrun]

/-- **Parts between brackets** are read, if each of them is read. -/
lemma run_enclosed {blanks : List Char} (hparts : ∀ p ∈ parts, ∀ xs, run (e.due xs) (chars p) =
      some (e.done xs (value p))) (hblanks : ∀ b ∈ blanks, isBlank b = true) :
    run (.due stack) (e.left :: [','].intercalate (parts.map chars) ++ blanks ++ [e.right]) =
      some (.done (e.document (parts.map value)) stack) := by
  by_cases hne : parts = []
  · have hrun := run_blanks (e.step_due_blank []) hblanks
    simp [hne, e.step_left, run_append, hrun, e.step_right_nil]
  · obtain ⟨xs, x, hvalues, hrun⟩ := e.run_intercalate hparts hne []
    have hdone := run_blanks (e.step_done_blank xs x) hblanks
    simp [e.step_left, run_append, hrun, hdone, e.step_right, hvalues]

/-- The items of an array. -/
def items (stack : List Frame) : Enclosure Json stack where
  left := '['
  right := ']'
  due xs := .due (.items xs :: stack)
  done xs x := .done x (.items xs :: stack)
  document := .array
  step_left := by simp [step, stepDue, isBlank]
  step_comma xs x := by simp [step, stepDone, isBlank]
  step_right_nil := by simp [step, stepDue, isBlank]
  step_right xs x := by simp [step, stepDone, isBlank]
  step_due_blank xs b hblank := by simp [step, stepDue, hblank]
  step_done_blank xs x b hblank := by simp [step, stepDone, hblank]

/-- The members of an object. -/
def members (stack : List Frame) : Enclosure (String × Json) stack where
  left := '\x7b'
  right := '\x7d'
  due ms := .due (.name ms :: stack)
  done ms m := .done m.2 (.value ms m.1 :: stack)
  document := .object
  step_left := by simp [step, stepDue, isBlank]
  step_comma ms m := by simp [step, stepDone, isBlank]
  step_right_nil := by simp [step, stepDue, isBlank]
  step_right ms m := by simp [step, stepDone, isBlank]
  step_due_blank ms b hblank := by simp [step, stepDue, hblank]
  step_done_blank ms m b hblank := by simp [step, stepDone, hblank]

end Enclosure

/-- The name of a member, its colon and its value are read. -/
lemma run_member {m : SpelledMember} (before : List (String × Json))
    (hname : ∀ stack, run (.due stack) m.nameText = some (.done (.string m.name) stack))
    (hvalue : ∀ stack, run (.due stack) m.valueText = some (.done m.value stack)) :
    run (.due (.name before :: stack)) m.chars =
      some (.done m.value (.value before m.name :: stack)) := by
  have hcolon : step (.done (.string m.name) (.name before :: stack)) ':' =
      some (.due (.value before m.name :: stack)) := by
    simp [step, stepDone, isBlank]
  rw [SpelledMember.chars, run_append, hname]
  simp [hcolon, hvalue]

/-- **A spelled document is read.** Where a document is due, a reader goes through a text that
spells one and has it at the end, with the same stack.

**Proof sketch.** By induction on the spelling. Inside an array or object its frame is on top of
the stack, and the documents in it are read with this stack. -/
theorem run_of_spells {json : Json} (h : Spells cs json) (stack : List Frame) :
    run (.due stack) cs = some (.done json stack) := by
  induction h generalizing stack with
  | string hchars =>
    simp [step, stepDue, isBlank, run_append, run_of_spellsChars hchars]
  | array _ hblanks ih => exact (Enclosure.items stack).run_enclosed (fun i hi _ => ih i hi _) hblanks
  | object _ _ hblanks ihnames ihvalues =>
    exact (Enclosure.members stack).run_enclosed
      (fun m hm before => run_member before (ihnames m hm) (ihvalues m hm)) hblanks
  | blank_left hblank _ ih => simp [step, stepDue, hblank, ih]
  | blank_right hblank _ ih => simp [run_append, ih, step, stepDone, hblank]

end Reader

/-- The document that a reader has at the end of a text. -/
def ofChars? (cs : List Char) : Option Json :=
  match Reader.run (.due []) cs with
  | some (.done json []) => some json
  | _ => none

/-- A spelled document is read. -/
theorem ofChars?_of_spells {cs : List Char} {json : Json} (h : Spells cs json) :
    ofChars? cs = some json := by
  rw [ofChars?, Reader.run_of_spells h]

/-- **A text spells one document.** -/
theorem Spells.unique {cs : List Char} {json₁ json₂ : Json} (h₁ : Spells cs json₁)
    (h₂ : Spells cs json₂) : json₁ = json₂ :=
  Option.some.inj ((ofChars?_of_spells h₁).symm.trans (ofChars?_of_spells h₂))

/-- A pair of codes is one character; a code that is the first of a pair is none by itself. -/
example : ofChars? "[ \"\\/\\ud83d\\uDE00\" , [ ] ]".toList =
      some (.array [.string "/😀", .array []]) ∧
    (ofChars? "\"\\ud83d\"".toList).isNone = true := ⟨rfl, rfl⟩

end Utterance.Json
