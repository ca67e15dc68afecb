import Utterance.Text.CodePoints

set_option autoImplicit false

/-!
# Words

A sentence is cut into words at its blanks. A blank is any character with the Unicode property
`White_Space`; runs of blanks count as one separator, and blanks at either end separate nothing.

## Main definitions

* `Utterance.Text.isBlank`: the blank characters.
* `Utterance.Text.splitWords`: the words of a list of characters.
* `Utterance.Text.words`: the words of a sentence.

## Main results

* `Utterance.Text.splitWords_append_blank`: a text is split at each of its blanks.
* `Utterance.Text.splitWords_of_not_isBlank`: a text without blanks is one word.
* `Utterance.Text.ne_nil_of_mem_splitWords`: a word is never empty.
* `Utterance.Text.space_notMem_of_mem_words`: no word of a sentence holds a space.
-/

namespace Utterance.Text

/-- The characters with the Unicode property `White_Space`. -/
def blanks : CodePoints :=
  [(0x9, 0xD), (0x20, 0x20), (0x85, 0x85), (0xA0, 0xA0), (0x1680, 0x1680), (0x2000, 0x200A),
   (0x2028, 0x2029), (0x202F, 0x202F), (0x205F, 0x205F), (0x3000, 0x3000)]

/-- Whether `c` separates words. -/
def isBlank (c : Char) : Bool := blanks.has c

/-- The words of `cs`: the non-empty pieces between blanks. -/
def splitWords (cs : List Char) : List (List Char) :=
  (cs.splitOnP isBlank).filter fun w => !w.isEmpty

/-- An empty text has no words. -/
@[simp] theorem splitWords_nil : splitWords [] = [] := by simp [splitWords]

/-- A text is split at each of its blanks. -/
theorem splitWords_append_blank {c : Char} (hc : isBlank c = true) (xs ys : List Char) :
    splitWords (xs ++ c :: ys) = splitWords xs ++ splitWords ys := by
  simp only [splitWords]
  rw [List.splitOnP_append_cons xs ys hc, List.filter_append]

/-- A text without blanks is one word, unless it is empty. -/
theorem splitWords_of_not_isBlank {w : List Char} (hne : w ≠ [])
    (h : ∀ c ∈ w, isBlank c = false) : splitWords w = [w] := by
  simp only [splitWords]
  rw [List.splitOnP_eq_singleton h]
  simp [hne]

/-- No word is empty. -/
theorem ne_nil_of_mem_splitWords {cs w : List Char} (h : w ∈ splitWords cs) : w ≠ [] := by
  simp only [splitWords, List.mem_filter, Bool.not_eq_true', List.isEmpty_eq_false_iff] at h
  exact h.2

/-- The pieces of a list between its separators hold members of the list, and no separator. -/
theorem mem_and_eq_false_of_mem_splitOnP {p : Char → Bool} {cs w : List Char}
    (h : w ∈ cs.splitOnP p) : ∀ c ∈ w, c ∈ cs ∧ p c = false := by
  induction cs generalizing w with
  | nil =>
    rw [List.splitOnP_nil, List.mem_singleton] at h
    simp [h]
  | cons c cs ih =>
    have htail : ∀ {piece}, piece ∈ cs.splitOnP p → ∀ d ∈ piece, d ∈ c :: cs ∧ p d = false :=
      fun hpiece d hd => ⟨List.mem_cons_of_mem _ (ih hpiece d hd).1, (ih hpiece d hd).2⟩
    rw [List.splitOnP_cons_eq_if_modifyHead] at h
    split at h
    · obtain rfl | h := List.mem_cons.1 h
      · simp
      · exact htail h
    · rename_i hc
      -- the character joins the first piece of the rest, which is there in any case
      obtain ⟨first, pieces, hpieces⟩ := List.exists_cons_of_ne_nil (List.splitOnP_ne_nil p cs)
      rw [hpieces] at h htail
      obtain rfl | h := List.mem_cons.1 h
      · intro d hd
        obtain rfl | hd := List.mem_cons.1 hd
        · exact ⟨List.mem_cons_self, by simpa using hc⟩
        · exact htail List.mem_cons_self d hd
      · exact htail (List.mem_cons_of_mem _ h)

/-- The words of a sentence, in order. -/
def words (sentence : String) : List String :=
  (splitWords sentence.toList).map String.ofList

/-- No word of a sentence holds a space. -/
theorem space_notMem_of_mem_words {sentence w : String} (h : w ∈ words sentence) :
    ' ' ∉ w.toList := by
  obtain ⟨cs, hcs, rfl⟩ := List.mem_map.1 h
  rw [String.toList_ofList]
  intro hspace
  have hblank := (mem_and_eq_false_of_mem_splitOnP (List.mem_filter.1 hcs).1 ' ' hspace).2
  exact absurd hblank (by decide)

end Utterance.Text
