import Utterance.Proofs.Sentences

set_option autoImplicit false

/-!
# Lower case, word by word

A sentence in lower case has the words of the sentence, each in lower case by itself. The small form
of a capital sigma depends on the letters around it, but not on those of another word: a blank is no
letter, and a word does not pass over it. Nor does lower-casing touch the blanks: it leaves them as
they are, and no other character becomes one.

## Main definitions

* `Utterance.Text.CodePoints.Apart`: two sets of characters without a common interval.

## Main results

* `Utterance.Text.induction_on_blanks`: a text is a word, or a word, a blank and a shorter text.
* `Utterance.Text.lowerFrom_append_blank`: a text is lower-cased on both sides of a blank by itself.
* `Utterance.Text.words_lowercase`: the words of a sentence in lower case.
-/

namespace Utterance.Text

/-! ## Sets of characters that lie apart -/

namespace CodePoints

/-- No interval of the first set meets one of the second. -/
def Apart (s t : CodePoints) : Prop :=
  ∀ i ∈ s, ∀ j ∈ t, i.2 < j.1 ∨ j.2 < i.1

instance (s t : CodePoints) : Decidable (s.Apart t) :=
  inferInstanceAs (Decidable (∀ i ∈ s, ∀ j ∈ t, i.2 < j.1 ∨ j.2 < i.1))

/-- A character of the first set is none of the second. -/
lemma Apart.has_eq_false {s t : CodePoints} (h : s.Apart t) {c : Char} (hc : s.has c = true) :
    t.has c = false := by
  rw [Bool.eq_false_iff, ne_eq, has_iff]
  rintro ⟨j, hj, hfirst, hlast⟩
  obtain ⟨i, hi, hfirst', hlast'⟩ := has_iff.1 hc
  obtain hlt | hlt := h i hi j hj <;> omega

end CodePoints

/-! ## Blanks in lower case -/

/-- The runs of capital letters of the table, without their strides. -/
def capitalRanges : CodePoints := lowerRuns.map fun r => (r.first, r.last)

/-- The runs of small letters of the table, without their strides. -/
def smallRanges : CodePoints := lowerRuns.map fun r => (r.apply r.first, r.apply r.last)

/-- No blank is a cased character. -/
lemma blanks_apart_cased : blanks.Apart cased := by
  decide +kernel

/-- No blank is skipped by the rule for the final sigma. -/
lemma blanks_apart_caseIgnorable : blanks.Apart caseIgnorable := by
  decide +kernel

/-- No blank is a capital letter of the table. -/
lemma blanks_apart_capitalRanges : blanks.Apart capitalRanges := by
  decide +kernel

/-- No blank is a small letter of the table. -/
lemma blanks_apart_smallRanges : blanks.Apart smallRanges := by
  decide +kernel

variable {b c d : Char} {before after xs ys : List Char}

/-- A capital letter lies between the first and the last of its run. -/
lemma has_capitalRanges {r : CaseRun} (hr : r ∈ lowerRuns) (h : r.covers c.toNat = true) :
    capitalRanges.has c = true := by
  obtain ⟨hfirst, hlast, -⟩ := CaseRun.covers_iff.1 h
  exact CodePoints.has_iff.2 ⟨_, List.mem_map.2 ⟨r, hr, rfl⟩, hfirst, hlast⟩

/-- A small letter lies between those of the first and of the last capital letter of its run. -/
lemma has_smallRanges {r : CaseRun} {n : Nat} (hr : r ∈ lowerRuns) (h : r.covers n = true) :
    smallRanges.has (Char.ofNat (r.apply n)) = true := by
  obtain ⟨hfirst, hlast, -⟩ := CaseRun.covers_iff.1 h
  refine CodePoints.has_iff.2 ⟨_, List.mem_map.2 ⟨r, hr, rfl⟩, ?_⟩
  rw [toNat_ofNat_apply hr h]
  simp only [CaseRun.apply]
  omega

/-- A blank is small: lower-casing leaves it as it is. -/
lemma isSmall_of_isBlank (hb : isBlank b = true) : IsSmall b := by
  refine isSmall_of_not_covers ?_ fun r hr => ?_
  · rintro rfl
    exact absurd hb (by decide)
  · rw [Bool.eq_false_iff, ne_eq]
    intro hcovers
    have hcapital := blanks_apart_capitalRanges.has_eq_false hb
    rw [has_capitalRanges hr hcovers] at hcapital
    cases hcapital

/-- A character that is no blank is mapped to none. -/
lemma isBlank_lowerChar_eq_false (hc : isBlank c = false) : isBlank (lowerChar c) = false := by
  unfold lowerChar
  split
  · rename_i r hr
    rw [Bool.eq_false_iff, ne_eq]
    intro hblank
    have hsmall := blanks_apart_smallRanges.has_eq_false hblank
    have hcovers : r.covers c.toNat = true := by simpa using List.find?_some hr
    rw [has_smallRanges (List.mem_of_find?_eq_some hr) hcovers] at hsmall
    cases hsmall
  · exact hc

/-- Whatever becomes of a character that is no blank holds none. -/
lemma isBlank_eq_false_of_mem_lowerAt (hc : isBlank c = false) (h : d ∈ lowerAt before c after) :
    isBlank d = false := by
  have hforms : ∀ e ∈ ['ς', 'σ', 'i', '\u0307'], isBlank e = false := by
    simp only [List.mem_cons, List.not_mem_nil, or_false, forall_eq_or_imp, forall_eq]
    decide
  obtain hform | ⟨-, rfl⟩ := mem_lowerAt_cases h
  · exact hforms d hform
  · exact isBlank_lowerChar_eq_false hc

/-- Every character becomes something. -/
lemma lowerAt_ne_nil (before : List Char) (c : Char) (after : List Char) :
    lowerAt before c after ≠ [] := by
  unfold lowerAt
  split
  · simp
  · split <;> simp

/-! ## The text around a character -/

/-- A look for a letter does not go past a blank. -/
lemma meetsLetter_append_blank (hb : isBlank b = true) (xs ys : List Char) :
    meetsLetter (xs ++ b :: ys) = meetsLetter xs := by
  induction xs with
  | nil =>
    have hcased := blanks_apart_cased.has_eq_false hb
    have hpassed := blanks_apart_caseIgnorable.has_eq_false hb
    simp [meetsLetter, hcased, hpassed]
  | cons x xs ih =>
    simp only [meetsLetter, List.cons_append, List.dropWhile_cons] at ih ⊢
    split
    · exact ih
    · rfl

/-- What stands before a blank does not matter to a character after it. -/
lemma lowerAt_blank_before (hb : isBlank b = true) (xs ys : List Char) (c : Char)
    (after : List Char) : lowerAt (xs ++ b :: ys) c after = lowerAt xs c after := by
  rw [lowerAt, lowerAt, endsWord, endsWord, meetsLetter_append_blank hb]

/-- What stands behind a blank does not matter to a character before it. -/
lemma lowerAt_blank_after (hb : isBlank b = true) (before : List Char) (c : Char)
    (xs ys : List Char) : lowerAt before c (xs ++ b :: ys) = lowerAt before c xs := by
  rw [lowerAt, lowerAt, endsWord, endsWord, meetsLetter_append_blank hb]

/-- What stands before a blank does not matter to the text after it. -/
lemma lowerFrom_blank_before (hb : isBlank b = true) (xs ys cs : List Char) :
    lowerFrom (xs ++ b :: ys) cs = lowerFrom xs cs := by
  induction cs generalizing xs with
  | nil => rfl
  | cons c cs ih => rw [lowerFrom, lowerFrom, lowerAt_blank_before hb, ← ih (c :: xs),
      List.cons_append]

/-- **A blank parts a text.** What stands on either side of it is lower-cased by itself, and the
blank stays as it is. -/
theorem lowerFrom_append_blank (hb : isBlank b = true) (before xs ys : List Char) :
    lowerFrom before (xs ++ b :: ys) = lowerFrom before xs ++ b :: lowerFrom [] ys := by
  induction xs generalizing before with
  | nil =>
    have hafter : lowerFrom (b :: before) ys = lowerFrom [] ys :=
      lowerFrom_blank_before hb [] before ys
    rw [List.nil_append, lowerFrom, lowerFrom, isSmall_of_isBlank hb before ys, hafter]
    rfl
  | cons x xs ih =>
    rw [List.cons_append, lowerFrom, lowerFrom, lowerAt_blank_after hb, ih, List.append_assoc]

/-! ## The words of a text -/

/-- A text without blanks becomes a text without blanks. -/
lemma isBlank_eq_false_of_mem_lowerFrom {cs : List Char} (h : ∀ c ∈ cs, isBlank c = false) :
    ∀ d ∈ lowerFrom before cs, isBlank d = false := by
  induction cs generalizing before with
  | nil => simp [lowerFrom]
  | cons c cs ih =>
    rw [List.forall_mem_cons] at h
    rw [lowerFrom, List.forall_mem_append]
    exact ⟨fun d => isBlank_eq_false_of_mem_lowerAt h.1, ih h.2⟩

/-- Only an empty text is empty in lower case. -/
lemma lowerFrom_eq_nil_iff {cs : List Char} : lowerFrom before cs = [] ↔ cs = [] := by
  cases cs with
  | nil => simp [lowerFrom]
  | cons c cs => simp [lowerFrom, lowerAt_ne_nil]

/-- **Induction on the blanks of a text.** A text without blanks is one step, and a text without
blanks in front of a blank and any other text is one more. -/
theorem induction_on_blanks {motive : List Char → Prop}
    (word : ∀ w, (∀ c ∈ w, isBlank c = false) → motive w)
    (blank : ∀ w b cs, (∀ c ∈ w, isBlank c = false) → isBlank b = true → motive cs →
      motive (w ++ b :: cs)) (cs : List Char) : motive cs := by
  -- the characters since the last blank are kept aside
  suffices h : ∀ w, (∀ c ∈ w, isBlank c = false) → motive (w ++ cs) from h [] (by simp)
  induction cs with
  | nil =>
    intro w hw
    rw [List.append_nil]
    exact word w hw
  | cons c cs ih =>
    intro w hw
    by_cases hc : isBlank c = true
    · exact blank w c cs hw hc (ih [] (by simp))
    · rw [List.append_cons]
      refine ih (w ++ [c]) (List.forall_mem_append.2 ⟨hw, ?_⟩)
      simpa using hc

/-- The words of a text without blanks are lower-cased with the text. -/
lemma splitWords_lowerFrom_of_not_isBlank {w : List Char} (h : ∀ c ∈ w, isBlank c = false) :
    splitWords (lowerFrom [] w) = (splitWords w).map (lowerFrom []) := by
  by_cases hnil : w = []
  · simp [hnil, lowerFrom]
  · have hlower : ∀ d ∈ lowerFrom [] w, isBlank d = false := isBlank_eq_false_of_mem_lowerFrom h
    rw [splitWords_of_not_isBlank hnil h, List.map_singleton,
      splitWords_of_not_isBlank (mt lowerFrom_eq_nil_iff.1 hnil) hlower]

/-- The words of a text are lower-cased one by one. -/
theorem splitWords_lowerFrom (cs : List Char) :
    splitWords (lowerFrom [] cs) = (splitWords cs).map (lowerFrom []) := by
  induction cs using induction_on_blanks with
  | word w hw => exact splitWords_lowerFrom_of_not_isBlank hw
  | blank w b cs hw hb ih =>
    rw [lowerFrom_append_blank hb, splitWords_append_blank hb, splitWords_append_blank hb, ih,
      splitWords_lowerFrom_of_not_isBlank hw, List.map_append]

/-- **The words of a sentence in lower case** are the words of the sentence, each in lower case.

**Proof sketch.** Induction on the blanks of the sentence. A blank parts the sentence in lower case
as it parts the sentence itself (`lowerFrom_append_blank`); between two blanks no character becomes
a blank, and none becomes nothing, so one word becomes one word. -/
theorem words_lowercase (sentence : String) :
    words (lowercase sentence) = (words sentence).map lowercase := by
  rw [words, lowercase, String.toList_ofList, splitWords_lowerFrom, words, List.map_map,
    List.map_map]
  refine List.map_congr_left fun w _ => ?_
  simp [lowercase]

end Utterance.Text
