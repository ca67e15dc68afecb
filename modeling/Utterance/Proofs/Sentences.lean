import Mathlib.Data.List.Basic
import Utterance.Proofs.SmallLetters
import Utterance.Text.Words

set_option autoImplicit false

/-!
# Sentences in lower case

A sentence is put in lower case and cut into words. The words that come out of this are those that
hold no blank, are not empty and stay as they are in lower case; and any row of such words comes
out of a sentence, namely of the words with spaces between them.

## Main definitions

* `Utterance.Text.IsWord`: the texts that stand between the blanks of a sentence.

## Main results

* `Utterance.Text.words_intercalate_eq_flatMap`, `Utterance.Text.words_intercalate`: the words of
  texts with spaces between them, and of words.
* `Utterance.Text.exists_words_lowercase_eq_iff`: the words of sentences in lower case.
-/

namespace Utterance.Text

/-- A text that can stand between the blanks of a sentence. -/
structure IsWord (w : String) : Prop where
  /-- A word is not empty. -/
  ne_empty : w ≠ ""
  /-- A word holds no blank. -/
  not_isBlank : ∀ c ∈ w.toList, isBlank c = false

/-- Whether a text is a word is read off its characters, one after the other. -/
instance (w : String) : Decidable (IsWord w) :=
  decidable_of_iff (w ≠ "" ∧ (w.toList.all fun c => !isBlank c) = true) <| by
    constructor
    · rintro ⟨hne, hall⟩
      exact ⟨hne, by simpa using hall⟩
    · rintro ⟨hne, hall⟩
      exact ⟨hne, by simpa using hall⟩

variable {w sentence : String} {ws : List String}

/-! ## The words of a sentence -/

/-- The words of a sentence hold characters of the sentence that are no blanks. -/
lemma mem_and_not_isBlank_of_mem_words (h : w ∈ words sentence) :
    ∀ c ∈ w.toList, c ∈ sentence.toList ∧ isBlank c = false := by
  obtain ⟨cs, hcs, rfl⟩ := List.mem_map.1 h
  rw [String.toList_ofList]
  exact mem_and_eq_false_of_mem_splitOnP (List.mem_filter.1 hcs).1

/-- The words of a sentence are not empty and hold no blank. -/
lemma isWord_of_mem_words (h : w ∈ words sentence) : IsWord w where
  ne_empty := by
    obtain ⟨cs, hcs, rfl⟩ := List.mem_map.1 h
    simpa using ne_nil_of_mem_splitWords hcs
  not_isBlank c hc := (mem_and_not_isBlank_of_mem_words h c hc).2

/-- The words of a sentence in lower case are in lower case. -/
lemma lowercase_eq_self_of_mem_words (h : w ∈ words (lowercase sentence)) : lowercase w = w :=
  lowercase_eq_self_iff.2 fun c hc =>
    isSmall_of_mem_lowercase (mem_and_not_isBlank_of_mem_words h c hc).1

/-! ## The sentence of some words -/

/-- Texts with spaces between them have the words of the texts. -/
lemma splitWords_intercalate (pieces : List (List Char)) :
    splitWords ([' '].intercalate pieces) = pieces.flatMap splitWords := by
  induction pieces with
  | nil => simp
  | cons piece pieces ih =>
    by_cases hnil : pieces = []
    · simp [hnil]
    · rw [List.intercalate_cons_of_ne_nil hnil, List.append_assoc, List.singleton_append,
        splitWords_append_blank (by decide), ih, List.flatMap_cons]

/-- **The words of joined texts** are the words of the texts, one text after the other. -/
theorem words_intercalate_eq_flatMap (texts : List String) :
    words (" ".intercalate texts) = texts.flatMap words := by
  have hspace : " ".toList = [' '] := rfl
  rw [words, String.toList_intercalate, hspace, splitWords_intercalate, List.flatMap_map,
    List.map_flatMap]
  rfl

/-- A word is the only word of itself. -/
lemma words_of_isWord (h : IsWord w) : words w = [w] := by
  rw [words, splitWords_of_not_isBlank (by simpa using h.ne_empty) h.not_isBlank]
  simp

/-- What holds of the space and of all characters of some words holds in the sentence of them. -/
lemma forall_mem_intercalate {p : Char → Prop} {pieces : List (List Char)} (hspace : p ' ')
    (h : ∀ piece ∈ pieces, ∀ c ∈ piece, p c) : ∀ c ∈ [' '].intercalate pieces, p c := by
  induction pieces with
  | nil => simp
  | cons piece pieces ih =>
    rw [List.forall_mem_cons] at h
    by_cases hnil : pieces = []
    · rw [hnil, List.intercalate_singleton]
      exact h.1
    · rw [List.intercalate_cons_of_ne_nil hnil]
      simp only [List.forall_mem_append, List.forall_mem_singleton]
      exact ⟨⟨h.1, hspace⟩, ih h.2⟩

/-- **Words with spaces between them are the words of that sentence.** -/
theorem words_intercalate (h : ∀ w ∈ ws, IsWord w) : words (" ".intercalate ws) = ws := by
  rw [words_intercalate_eq_flatMap, List.flatMap_congr fun w hw => words_of_isWord (h w hw),
    List.flatMap_singleton']

/-- Words in lower case make a sentence in lower case. -/
lemma lowercase_intercalate (h : ∀ w ∈ ws, lowercase w = w) :
    lowercase (" ".intercalate ws) = " ".intercalate ws := by
  rw [lowercase_eq_self_iff, String.toList_intercalate]
  refine forall_mem_intercalate (isSmall_of_not_covers (by decide) (by decide +kernel)) ?_
  rw [List.forall_mem_map]
  exact fun w hw => lowercase_eq_self_iff.1 (h w hw)

/-- Words in lower case are the words of their sentence, also in lower case. -/
theorem words_lowercase_intercalate (h : ∀ w ∈ ws, IsWord w ∧ lowercase w = w) :
    words (lowercase (" ".intercalate ws)) = ws := by
  rw [lowercase_intercalate fun w hw => (h w hw).2, words_intercalate fun w hw => (h w hw).1]

/-- **The words of sentences in lower case.** Some texts are the words of a sentence in lower case
exactly when each of them is a word and in lower case. -/
theorem exists_words_lowercase_eq_iff :
    (∃ sentence, words (lowercase sentence) = ws) ↔ ∀ w ∈ ws, IsWord w ∧ lowercase w = w := by
  constructor
  · rintro ⟨sentence, rfl⟩ w hw
    exact ⟨isWord_of_mem_words hw, lowercase_eq_self_of_mem_words hw⟩
  · exact fun h => ⟨" ".intercalate ws, words_lowercase_intercalate h⟩

end Utterance.Text
