import Mathlib.Data.List.Basic
import Mathlib.Data.List.Sort
import Mathlib.Tactic.SplitIfs
import Utterance.Proofs.ActionDocuments

set_option autoImplicit false

/-!
# What is printed for a recognition

A recognition is printed as an object with two members: the name of its command with `_action` at
the end, and the inputs, which are the values of its extract by key. Compact documents stand on one
line, since a line break in a text is escaped; indented objects with members stand on several.

## Main definitions

* `Utterance.Value.IsWrittenAs`: the document of a value.
* `Utterance.Extract.AreInputs`: the values of an extract as members of an object.
* `Utterance.Recognition.Prints`: what is printed for a recognition.

## Main results

* `Utterance.Json.newline_not_mem_write_compact`: compact documents stand on one line.
* `Utterance.Extract.AreInputs.unique`: the values make one list of members.
* `Utterance.Recognition.prints_text`: the text of the action is what is printed.
-/

namespace Utterance

open Calendar Text

/-! ## Lines -/

namespace Json

variable {depth : ℕ}

/-- No hexadecimal digit is a line break. -/
lemma newline_ne_hexDigit (n : ℕ) : '\n' ≠ hexDigit n := by
  have hdigit : ∀ d < 16, '\n' ≠ Nat.digitChar d := by decide
  exact hdigit _ (Nat.mod_lt n (by decide))

/-- A line break in a text is escaped. -/
lemma newline_not_mem_escapeChar (c : Char) : '\n' ∉ escapeChar c := by
  by_cases hc : '\n' = c
  · subst hc
    simp [escapeChar]
  · unfold escapeChar
    split_ifs <;> simp [newline_ne_hexDigit, hc]

/-- A text between quotes stands on one line. -/
lemma newline_not_mem_quote (s : String) : '\n' ∉ quote s := by
  simp [quote, newline_not_mem_escapeChar]

/-- Items on one line stand on one line with their brackets. -/
lemma newline_not_mem_enclose {left right : Char} {items : List (List Char)} (hleft : left ≠ '\n')
    (hright : right ≠ '\n') (hitems : ∀ item ∈ items, '\n' ∉ item) :
    '\n' ∉ enclose .compact depth left right items := by
  cases items with
  | nil => simp [enclose, hleft.symm, hright.symm]
  | cons item items =>
    obtain ⟨hitem, hitems⟩ := List.forall_mem_cons.1 hitems
    simpa [enclose, Layout.lineBreak, hleft.symm, hright.symm, hitem] using hitems

/-- **Compact documents stand on one line.** -/
theorem newline_not_mem_write_compact (json : Json) (depth : ℕ) :
    '\n' ∉ json.write .compact depth := by
  induction json using Json.induction_on generalizing depth with
  | string s => exact newline_not_mem_quote s
  | array items ih =>
    rw [write, writeItems_eq_map]
    refine newline_not_mem_enclose (by decide) (by decide) ?_
    exact List.forall_mem_map.2 fun item hitem => ih item hitem _
  | object members ih =>
    rw [write, writeMembers_eq_map]
    refine newline_not_mem_enclose (by decide) (by decide) ?_
    refine List.forall_mem_map.2 ?_
    rintro ⟨name, value⟩ hmember
    simp [writeMember, Layout.colon, newline_not_mem_quote, ih _ hmember]

/-- An indented object with members has a line for each of them. -/
lemma newline_mem_write_indented (member : String × Json) (members : List (String × Json)) :
    '\n' ∈ (object (member :: members)).write .indented depth := by
  simp [write, writeMembers, enclose, Layout.lineBreak]

end Json

/-! ## Inputs -/

/-- How a value is written: words are an array of texts, a time is a text. -/
inductive Value.IsWrittenAs : Value → Json → Prop
  /-- Words. -/
  | words (ws : List String) : IsWrittenAs (.words ws) (.array (ws.map .string))
  /-- A time. -/
  | time (t : Timestamp) : IsWrittenAs (.time t) (.string t.text)

/-- A value is written as its document. -/
lemma Value.isWrittenAs_iff {value : Value} {json : Json} :
    value.IsWrittenAs json ↔ json = value.document := by
  constructor
  · intro h
    cases h with
    | words ws => rfl
    | time t => rfl
  · rintro rfl
    cases value with
    | words ws => exact .words ws
    | time t => exact .time t

namespace Extract

/-- The values of an extract as members of an object: every key that has a value, with the value as
it is written, in ascending order of the bytes of the keys. -/
structure AreInputs (e : Extract) (inputs : List (String × Json)) : Prop where
  /-- The keys ascend by their bytes. -/
  ascending : (inputs.map fun member => bytes member.1).Pairwise (· < ·)
  /-- The members are the values of an extract with data. -/
  mem_iff : ∀ key json, (key, json) ∈ inputs ↔
    ∃ values value, e = .data values ∧ values.get? key = some value ∧ value.IsWrittenAs json

/-- **The values of an extract make one list of members.** -/
theorem AreInputs.unique {e : Extract} {inputs inputs' : List (String × Json)}
    (h : e.AreInputs inputs) (h' : e.AreInputs inputs') : inputs = inputs' := by
  have hirrefl : Std.Irrefl fun m m' : String × Json => bytes m.1 < bytes m'.1 :=
    ⟨fun _ => List.lt_irrefl _⟩
  refine List.Pairwise.eq_of_mem_iff (List.pairwise_map.1 h.ascending)
    (List.pairwise_map.1 h'.ascending) ?_
  rintro ⟨key, json⟩
  rw [h.mem_iff, h'.mem_iff]

/-- A key has a value when the extract has data that gives it one. -/
lemma get?_eq_some_iff {e : Extract} {key : String} {value : Value} :
    e.get? key = some value ↔ ∃ values, e = .data values ∧ values.get? key = some value := by
  cases e with
  | noData => simp [get?, values]
  | data values => simp [get?, Extract.values]

end Extract

/-! ## Recognitions -/

namespace Recognition

variable {r : Recognition} {layout : Json.Layout}

/-- The document for a recognition with inputs. -/
def document (r : Recognition) (inputs : List (String × Json)) : Json :=
  .object [("action", .string (r.command.name ++ "_action")), ("inputs", .object inputs)]

/-- The inputs of the action have the values of the extract. -/
lemma get?_inputs (r : Recognition) (key : String) :
    (Action.ofRecognition r).inputs.get? key = r.extract.get? key := rfl

/-- The inputs of the action are those of the extract. -/
lemma areInputs_members (r : Recognition) :
    r.extract.AreInputs (Action.ofRecognition r).members where
  ascending := (Action.ofRecognition r).pairwise_bytes_members
  mem_iff key json := by
    have hmembers : (key, json) ∈ (Action.ofRecognition r).members ↔
        ∃ value, r.extract.get? key = some value ∧ value.IsWrittenAs json := by
      simp [Action.members, Bindings.mem_entries_iff, get?_inputs, Value.isWrittenAs_iff, eq_comm]
    simp only [hmembers, Extract.get?_eq_some_iff]
    constructor
    · rintro ⟨value, ⟨values, hdata, hvalue⟩, hwritten⟩
      exact ⟨values, value, hdata, hvalue, hwritten⟩
    · rintro ⟨values, value, hdata, hvalue, hwritten⟩
      exact ⟨value, ⟨values, hdata, hvalue⟩, hwritten⟩

/-- What is printed for a recognition in a layout: the document with the values of the extract, on
one line or on several, and the text spells no other document. -/
structure Prints (r : Recognition) (inputs : List (String × Json)) (layout : Json.Layout)
    (text : String) : Prop where
  /-- The inputs are the values of the extract. -/
  areInputs : r.extract.AreInputs inputs
  /-- The text is the document in the layout. -/
  text_eq : text = (r.document inputs).text layout
  /-- The text spells the document and no other. -/
  spells_iff : ∀ json, Json.Spells text.toList json ↔ json = r.document inputs
  /-- It has line breaks in the indented layout only. -/
  newline_mem_iff : '\n' ∈ text.toList ↔ layout = .indented

/-- One text is printed for a recognition in a layout. -/
theorem Prints.unique {inputs inputs' : List (String × Json)} {text text' : String}
    (h : r.Prints inputs layout text) (h' : r.Prints inputs' layout text') : text = text' := by
  rw [h.text_eq, h'.text_eq, h.areInputs.unique h'.areInputs]

/-- **The text of the action** of a recognition is what is printed for it. -/
theorem prints_text (r : Recognition) (layout : Json.Layout) :
    r.Prints (Action.ofRecognition r).members layout ((Action.ofRecognition r).text layout) where
  areInputs := r.areInputs_members
  text_eq := rfl
  spells_iff := (Action.ofRecognition r).spells_text_iff layout
  newline_mem_iff := by
    rw [Action.text, Json.text, String.toList_ofList]
    cases layout with
    | compact => simp [Json.newline_not_mem_write_compact]
    | indented => simp [Action.document, Json.newline_mem_write_indented]

end Recognition

end Utterance
