import Mathlib.Data.List.Basic
import Mathlib.Tactic.SplitIfs
import Utterance.Action
import Utterance.Proofs.ByteOrder
import Utterance.Proofs.JsonGrammar
import Utterance.Proofs.WrittenTimestamps

set_option autoImplicit false

/-!
# The documents of actions

A written document spells itself in either layout: the escapes are spellings of their characters,
and line breaks are blanks before items and brackets. As a text spells one document, the document of
an action can be had from its text, and the action from its document: words are an array, a time is
a text that no other time has.

## Main definitions

* `Utterance.Action.members`: the inputs of an action as members of an object.

## Main results

* `Utterance.Json.spells_write`: a written document spells itself.
* `Utterance.Action.document_injective`: actions with one document are the same.
* `Utterance.Action.text_loses_nothing`: what the text of an action spells, and that it is the text
  of no other action.
-/

namespace Utterance

open Calendar Text

namespace Json

/-! ## Written documents -/

/-- **Induction on documents**, through the items of arrays and the members of objects. -/
@[elab_as_elim]
theorem induction_on {p : Json → Prop} (json : Json) (string : ∀ s, p (.string s))
    (array : ∀ items, (∀ item ∈ items, p item) → p (.array items))
    (object : ∀ members : List (String × Json), (∀ m ∈ members, p m.2) → p (.object members)) :
    p json :=
  @Json.rec p (fun items => ∀ item ∈ items, p item) (fun members => ∀ m ∈ members, p m.2)
    (fun m => p m.2) string array object (by simp) (fun _ _ hhead htail => List.forall_mem_cons.2 ⟨hhead, htail⟩)
    (by simp) (fun _ _ hhead htail => List.forall_mem_cons.2 ⟨hhead, htail⟩) (fun _ _ h => h) json

section Spelling

variable {layout : Layout} {depth : ℕ}

/-- The code of a control has two zeros before its own digits. -/
lemma hexNumber?_control :
    ∀ n < 0x20, hexNumber? ['0', '0', hexDigit (n / 16), hexDigit n] = some n := by
  decide

/-- Every character of a text is spelled by its written form. -/
lemma spellsChar_escapeChar (c : Char) : SpellsChar (escapeChar c) c := by
  have hshort {e d : Char} (hescape : shortEscapes.lookup e = some d) (hd : c = d) :
      SpellsChar ['\\', e] c :=
    .short (hd ▸ hescape)
  unfold escapeChar
  split_ifs with hquote hbackslash hb hf hn hr ht hcontrol
  · exact hshort (by decide) hquote
  · exact hshort (by decide) hbackslash
  · exact hshort (by decide) hb
  · exact hshort (by decide) hf
  · exact hshort (by decide) hn
  · exact hshort (by decide) hr
  · exact hshort (by decide) ht
  · have hcode := SpellsChar.code rfl (hexNumber?_control c.toNat hcontrol) c.valid
    rwa [Char.ofNat_toNat] at hcode
  · exact .plain hquote hbackslash (Nat.not_lt.1 hcontrol)

/-- The written characters of a text spell them. -/
lemma spellsChars_escapeChar (text : List Char) : SpellsChars (text.flatMap escapeChar) text := by
  induction text with
  | nil => exact .nil
  | cons c text ih => exact .cons (spellsChar_escapeChar c) ih

/-- A text between quotes spells this text. -/
lemma spells_quote (s : String) : Spells (quote s) (.string s) :=
  .string (spellsChars_escapeChar s.toList)

/-- A line break consists of blanks. -/
lemma isBlank_of_mem_lineBreak : ∀ b ∈ layout.lineBreak depth, isBlank b = true := by
  cases layout with
  | compact => simp [Layout.lineBreak]
  | indented =>
    simp only [Layout.lineBreak, List.forall_mem_cons]
    exact ⟨rfl, fun b hb => List.eq_of_mem_replicate hb ▸ rfl⟩

/-- Blanks may stand before a document. -/
lemma Spells.blanks_append {blanks cs : List Char} {json : Json} (h : Spells cs json)
    (hblanks : ∀ b ∈ blanks, isBlank b = true) : Spells (blanks ++ cs) json := by
  induction blanks with
  | nil => exact h
  | cons b blanks ih =>
    obtain ⟨hblank, hblanks⟩ := List.forall_mem_cons.1 hblanks
    exact .blank_left hblank (ih hblanks)

/-- What stands between brackets has commas between its items, and a line break before each item
and before the right bracket. -/
lemma enclose_eq_intercalate (layout : Layout) (depth : ℕ) (left right : Char)
    (items : List (List Char)) :
    ∃ blanks, (∀ b ∈ blanks, isBlank b = true) ∧
      enclose layout depth left right items =
        left :: [','].intercalate (items.map (layout.lineBreak (depth + 1) ++ ·)) ++ blanks ++
          [right] := by
  have hcommas (first : List Char) (rest : List (List Char)) :
      [','].intercalate (first :: rest) = first ++ rest.flatMap (',' :: ·) := by
    induction rest generalizing first with
    | nil => simp
    | cons item rest ih => simp [List.intercalate_cons_cons, ih]
  cases items with
  | nil => exact ⟨[], by simp, by simp [enclose]⟩
  | cons item items =>
    refine ⟨layout.lineBreak depth, isBlank_of_mem_lineBreak, ?_⟩
    simp [enclose, hcommas, List.flatMap_map]

/-- An item with the line break before it, and the document that it spells. -/
def spelledItem (layout : Layout) (depth : ℕ) (item : Json) : List Char × Json :=
  (layout.lineBreak depth ++ write layout depth item, item)

/-- The items of an array are written one by one. -/
lemma writeItems_eq_map (items : List Json) :
    writeItems layout depth items = items.map (write layout depth) := by
  induction items with
  | nil => rfl
  | cons item items ih => rw [writeItems, ih, List.map_cons]

/-- The spelling of a member: a line break stands before its name, and what follows the colon
before its value. -/
def spelledMember (layout : Layout) (depth : ℕ) (member : String × Json) : SpelledMember where
  nameText := layout.lineBreak depth ++ quote member.1
  name := member.1
  valueText := layout.colon.tail ++ write layout depth member.2
  value := member.2

/-- The member that is spelled is the one that is written. -/
lemma member_spelledMember (member : String × Json) :
    (spelledMember layout depth member).member = member := rfl

/-- A written member stands behind a line break. -/
lemma chars_spelledMember (member : String × Json) :
    (spelledMember layout depth member).chars =
      layout.lineBreak depth ++ writeMember layout depth member := by
  have hcolon : layout.colon = ':' :: layout.colon.tail := by cases layout <;> rfl
  rw [writeMember, hcolon]
  simp [SpelledMember.chars, spelledMember]

/-- The members of an object are written one by one. -/
lemma writeMembers_eq_map (members : List (String × Json)) :
    writeMembers layout depth members = members.map (writeMember layout depth) := by
  induction members with
  | nil => rfl
  | cons member members ih => rw [writeMembers, ih, List.map_cons]

/-- **A written document spells itself**, in either layout and at any depth. -/
theorem spells_write (json : Json) (depth : ℕ) : Spells (json.write layout depth) json := by
  induction json using Json.induction_on generalizing depth with
  | string s => exact spells_quote s
  | array items ih =>
    obtain ⟨blanks, hblanks, henclose⟩ := enclose_eq_intercalate layout depth '[' ']'
      (writeItems layout (depth + 1) items)
    have hitems : ∀ i ∈ items.map (spelledItem layout (depth + 1)), Spells i.1 i.2 := by
      refine List.forall_mem_map.2 fun item hitem => ?_
      exact (ih item hitem (depth + 1)).blanks_append isBlank_of_mem_lineBreak
    have harray := Spells.array hitems hblanks
    rw [write, henclose, writeItems_eq_map]
    simpa [Function.comp_def, spelledItem] using harray
  | object members ih =>
    obtain ⟨blanks, hblanks, henclose⟩ := enclose_eq_intercalate layout depth '\x7b' '\x7d'
      (writeMembers layout (depth + 1) members)
    have hnames : ∀ m ∈ members.map (spelledMember layout (depth + 1)),
        Spells m.nameText (.string m.name) := by
      refine List.forall_mem_map.2 fun member _ => ?_
      exact (spells_quote member.1).blanks_append isBlank_of_mem_lineBreak
    have hcolon : ∀ b ∈ layout.colon.tail, isBlank b = true := by
      cases layout <;> simp [Layout.colon, isBlank]
    have hvalues : ∀ m ∈ members.map (spelledMember layout (depth + 1)),
        Spells m.valueText m.value := by
      refine List.forall_mem_map.2 fun member hmember => ?_
      exact (ih member hmember (depth + 1)).blanks_append hcolon
    have hobject := Spells.object hnames hvalues hblanks
    rw [write, henclose, writeMembers_eq_map]
    simpa [Function.comp_def, chars_spelledMember, member_spelledMember] using hobject

/-- **The text of a document** spells this document and no other. -/
theorem spells_text_iff (document json : Json) :
    Spells (document.text layout).toList json ↔ json = document := by
  have htext : Spells (document.text layout).toList document := by
    rw [text, String.toList_ofList]
    exact spells_write document 0
  exact ⟨fun h => h.unique htext, fun h => h ▸ htext⟩

end Spelling

end Json

/-! ## Actions -/

/-- The entries are the keys with their values. -/
lemma Bindings.mem_entries_iff {b : Bindings} {key : String} {value : Value} :
    (key, value) ∈ b.entries ↔ b.get? key = some value := by
  rw [get?, List.lookup_eq_some_iff]
  refine ⟨fun h => ?_, ?_⟩
  · obtain ⟨before, after, hentries⟩ := List.append_of_mem h
    have hbefore := (List.pairwise_append.1 (hentries ▸ b.ascending)).2.2
    exact ⟨before, after, hentries, fun e he =>
      bne_iff_ne.2 (hbefore e he _ List.mem_cons_self).ne'⟩
  · rintro ⟨before, after, hentries, -⟩
    exact hentries ▸ List.mem_append_right _ List.mem_cons_self

/-- Values with one document are the same. -/
theorem Value.document_injective : Function.Injective Value.document := by
  intro v w h
  cases v with
  | words ws =>
    cases w with
    | words ws' =>
      have hwords := Json.array.inj h
      exact congrArg _ (List.map_injective_iff.2 (fun _ _ => Json.string.inj) hwords)
    | time t => cases h
  | time t =>
    cases w with
    | words ws => cases h
    | time t' => exact congrArg _ (Timestamp.text_injective (Json.string.inj h))

namespace Action

/-- The inputs of an action as members of an object. -/
def members (a : Action) : List (String × Json) := a.inputs.entries.map fun e => (e.1, e.2.document)

/-- **Actions with one document are the same.** -/
theorem document_injective : Function.Injective document := by
  rintro ⟨name, entries, hentries⟩ ⟨name', entries', hentries'⟩ h
  simp only [document, Json.object.injEq, List.cons.injEq, Prod.mk.injEq, Json.string.injEq,
    true_and, and_true] at h
  obtain ⟨rfl, hmap⟩ := h
  obtain rfl : entries = entries' := by
    refine List.map_injective_iff.2 (fun e e' he => ?_) hmap
    obtain ⟨hkey, hvalue⟩ := Prod.mk.inj he
    exact Prod.ext hkey (Value.document_injective hvalue)
  rfl

/-- The text of an action spells its document. -/
lemma spells_text_iff (a : Action) (layout : Json.Layout) (json : Json) :
    Json.Spells (a.text layout).toList json ↔
      json = .object [("action", .string a.name), ("inputs", .object a.members)] :=
  Json.spells_text_iff a.document json

/-- **Actions with equal texts are the same**, also when the layouts differ. -/
theorem eq_of_text_eq_text {a b : Action} {layout layout' : Json.Layout}
    (h : a.text layout = b.text layout') : a = b := by
  have hspells : Json.Spells (b.text layout').toList a.document :=
    h ▸ (a.spells_text_iff layout a.document).2 rfl
  exact document_injective ((b.spells_text_iff layout' a.document).1 hspells)

/-- A key is bound to the document of its value. -/
lemma mem_members_iff (a : Action) (key : String) (value : Value) :
    (key, value.document) ∈ a.members ↔ a.inputs.get? key = some value := by
  rw [← Bindings.mem_entries_iff, members, List.mem_map]
  refine ⟨?_, fun h => ⟨_, h, rfl⟩⟩
  rintro ⟨e, he, hmember⟩
  obtain ⟨rfl, hvalue⟩ := Prod.mk.inj hmember
  exact Value.document_injective hvalue ▸ he

/-- The members have the keys of the inputs. -/
lemma mem_keys_members_iff {a : Action} {key : String} :
    key ∈ a.members.map Prod.fst ↔ (a.inputs.get? key).isSome := by
  simp [members, Option.isSome_iff_exists, ← Bindings.mem_entries_iff]

/-- The members ascend by the bytes of their keys. -/
lemma pairwise_bytes_members (a : Action) :
    (a.members.map fun member => bytes member.1).Pairwise (· < ·) := by
  simp only [members, List.map_map, List.pairwise_map, Function.comp_apply]
  exact a.inputs.ascending.imp bytes_lt_bytes_iff.2

/-- **The text of an action** loses nothing. In either layout it spells one document, an object
with the name and the inputs. The inputs have the keys that are given, in ascending order of their
bytes; words are bound as an array, a time as its text. No other action has this text in any
layout.

**Proof sketch.** A written document spells itself and, since a reader follows every spelling to its
end, itself alone (`Json.spells_text_iff`). Actions with equal texts therefore have equal
documents, which are those of one action (`document_injective`). -/
theorem text_loses_nothing (a : Action) :
    ∃ inputs : List (String × Json),
      (∀ layout json, Json.Spells (a.text layout).toList json ↔
        json = .object [("action", .string a.name), ("inputs", .object inputs)]) ∧
      (∀ key, key ∈ inputs.map Prod.fst ↔ (a.inputs.get? key).isSome) ∧
      (inputs.map fun member => bytes member.1).Pairwise (· < ·) ∧
      (∀ key ws, (key, .array (ws.map .string)) ∈ inputs ↔ a.inputs.get? key = some (.words ws)) ∧
      (∀ key t, (key, .string t.text) ∈ inputs ↔ a.inputs.get? key = some (.time t)) ∧
      ∀ (b : Action) (layout layout' : Json.Layout), a.text layout = b.text layout' → a = b :=
  ⟨a.members, a.spells_text_iff, fun _ => mem_keys_members_iff, a.pairwise_bytes_members,
    fun key ws => a.mem_members_iff key (.words ws), fun key t => a.mem_members_iff key (.time t),
    fun _ _ _ => eq_of_text_eq_text⟩

end Action

end Utterance
