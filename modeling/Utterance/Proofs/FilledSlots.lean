import Utterance.Proofs.Sentences
import Utterance.Proofs.TimeFreeSentences

set_option autoImplicit false

/-!
# Sentences made from a grammar

A row of fixed phrases and greedy slots makes a sentence as soon as there are words for the greedy
slots. The grammar of the row gets these words back out of the sentence unless the phrase after a
greedy slot already begins among its words. The last slot is different: it has to take everything
that is left, so a phrase that comes earlier does not mislead it.

## Main definitions

* `Utterance.IsTemplate`: a row of fixed phrases and greedy slots.
* `Utterance.Filling`: words for the greedy slots of a row.
* `Utterance.Filling.sentence`: the sentence that they make.
* `Utterance.Filling.IsReturnedBy`: an extract has these words and nothing else.
* `Utterance.Filling.PhrasesInPlace`: no phrase begins before its place.

## Main results

* `Utterance.Filling.segmentation_iff`: when the sentence is segmented as it was made.
* `Utterance.Filling.isReturnedBy_extract_iff`: when the words are got back.
-/

namespace Utterance

open Calendar Text

/-! ## Rows that make sentences -/

/-- A row of greedy slots and of fixed phrases that are made of words. -/
structure IsTemplate (slots : List Slot) : Prop where
  /-- There is no time slot. -/
  ne_time : ∀ key, .time key ∉ slots
  /-- The phrases are made of words. -/
  isWord : ∀ phrase, .fixed phrase ∈ slots → ∀ w ∈ phrase, IsWord w

/-- Words for the greedy slots of a row. The last slot may go without. -/
structure Filling (slots : List Slot) where
  /-- The words for the slot of a key. -/
  text : String → List String
  /-- They are words. -/
  isWord : ∀ key, .greedy key ∈ slots → ∀ w ∈ text key, IsWord w
  /-- A slot before another one has some. -/
  ne_nil : ∀ front key next later, slots = front ++ .greedy key :: next :: later → text key ≠ []

/-- The words that stand for a slot in a sentence. -/
def Slot.filled (text : String → List String) : Slot → List String
  | fixed phrase => phrase
  | greedy key => text key
  | time key => text key

namespace Filling

variable {slots : List Slot} (f : Filling slots)

/-- The phrases of the row and the words for the greedy slots, in the order of the slots. -/
def allWords : List String := slots.flatMap (Slot.filled f.text)

/-- The sentence of the phrases and the words. -/
def sentence : String := " ".intercalate f.allWords

/-- The extract has the words for the greedy slots under their keys and nothing else. -/
structure IsReturnedBy (e : Extract) : Prop where
  /-- There is no data exactly when there is no greedy slot. -/
  eq_noData_iff : e = .noData ↔ ∀ key, .greedy key ∉ slots
  /-- The keys of the greedy slots have their words, other keys have nothing. -/
  get?_eq : ∀ key, e.get? key = if .greedy key ∈ slots then some (.words (f.text key)) else none

/-- The phrase after a greedy slot begins with none of the words of the slot but the first, which the
slot takes in any case. A phrase that ends the row may begin anywhere. -/
def PhrasesInPlace : Prop :=
  ∀ front key phrase later, slots = front ++ .greedy key :: .fixed phrase :: later → later ≠ [] →
    ∀ i, 1 ≤ i → i < (f.text key).length →
      ¬ phrase <+: (f.text key ++ (phrase ++ later.flatMap (Slot.filled f.text))).drop i

/-! ## The sentence and its segmentation -/

/-- The words of the sentence are those that it was made of. -/
theorem words_sentence (htemplate : IsTemplate slots) : words f.sentence = f.allWords := by
  refine words_intercalate fun w hw => ?_
  obtain ⟨slot, hslot, hw⟩ := List.mem_flatMap.1 hw
  cases slot with
  | fixed phrase => exact htemplate.isWord phrase hslot w hw
  | greedy key => exact f.isWord key hslot w hw
  | time key => exact absurd hslot (htemplate.ne_time key)

/-- **The sentence is segmented as it was made** exactly when no phrase begins before its place.

**Proof sketch.** A fixed phrase and a last greedy slot always have their own words. A greedy slot
with a successor has them when they are the shortest run before the phrase of the successor. -/
theorem segmentation_iff (hslots : Separable slots) (htemplate : IsTemplate slots) :
    Segmentation slots f.allWords (slots.map (Slot.filled f.text)) [] ↔ f.PhrasesInPlace := by
  simp only [Divides.map_iff, List.append_nil]
  constructor
  · rintro ⟨-, hfits⟩ front key phrase later heq hlater
    have hrun : (Slot.fixed phrase).IsShortestRun later.isEmpty _ (f.text key) :=
      hfits front (.greedy key) (.fixed phrase :: later) heq
    rw [List.isEmpty_eq_false_iff.2 hlater] at hrun
    exact (Slot.isShortestRun_fixed_iff.1 hrun).2.2
  · intro hplaces
    refine ⟨rfl, fun front slot later heq => ?_⟩
    cases slot with
    | time key => exact absurd (heq ▸ by simp) (htemplate.ne_time key)
    | fixed phrase => exact ⟨rfl, List.prefix_append _ _⟩
    | greedy key =>
      rcases later with _ | ⟨next, later⟩
      · exact (List.append_nil _).symm
      have hne := f.ne_nil front key next later heq
      cases next with
      | time key' => exact absurd (heq ▸ by simp) (htemplate.ne_time key')
      | greedy key' => exact absurd heq (hslots.not_adjacent front later key key')
      | fixed phrase =>
        cases later with
        | nil =>
          rw [List.flatMap_singleton]
          exact Slot.isShortestRun_last_fixed hne
        | cons after later =>
          refine Slot.isShortestRun_fixed_iff.2 ⟨hne, List.prefix_append _ _, ?_⟩
          exact hplaces front key phrase (after :: later) heq (by simp)

/-! ## The extract of the sentence -/

variable {f} {e : Extract} {segments : List (List String)} {rest : List String} {now : Timestamp}

/-- The slots with keys are the greedy ones. -/
lemma mem_slotKeys_iff (htemplate : IsTemplate slots) {key : String} :
    key ∈ slotKeys slots ↔ .greedy key ∈ slots := by
  constructor
  · intro hkey
    obtain ⟨slot, hslot, hslotkey⟩ := List.mem_filterMap.1 hkey
    cases slot with
    | fixed phrase => cases hslotkey
    | greedy k =>
      cases hslotkey
      exact hslot
    | time k => exact absurd hslot (htemplate.ne_time k)
  · exact fun hslot => List.mem_filterMap.2 ⟨_, hslot, rfl⟩

/-- The extract of the segments as they were made has the words for the greedy slots. -/
lemma isReturnedBy_of_records (htemplate : IsTemplate slots)
    (h : e.Records slots (slots.map (Slot.filled f.text)) now) : f.IsReturnedBy e where
  eq_noData_iff := by
    rw [h.eq_noData_iff, ← slotKeys_eq_nil_iff, List.eq_nil_iff_forall_not_mem]
    exact forall_congr' fun key => not_congr (mem_slotKeys_iff htemplate)
  get?_eq key := by
    split
    · rename_i hslot
      have hmem : (.greedy key, f.text key) ∈ slots.zip (slots.map (Slot.filled f.text)) := by
        have hzip : slots.zip (slots.map (Slot.filled f.text)) =
            slots.map fun slot => (slot, slot.filled f.text) := by
          simpa using List.zip_map' (f := id) (g := Slot.filled f.text) (l := slots)
        rw [hzip]
        exact List.mem_map.2 ⟨_, hslot, rfl⟩
      obtain ⟨_, rfl, hget⟩ := h.get?_eq _ _ _ hmem rfl
      exact hget
    · rename_i hslot
      exact h.get?_eq_none (mt (mem_slotKeys_iff htemplate).1 hslot)

/-- If the extract has the words for the greedy slots, the segments are as they were made. -/
lemma eq_map_of_isReturnedBy (htemplate : IsTemplate slots)
    (hsegments : Segmentation slots f.allWords segments rest) (h : e.Records slots segments now)
    (hreturned : f.IsReturnedBy e) : segments = slots.map (Slot.filled f.text) := by
  have hfilled : ∀ p ∈ slots.zip segments, p.2 = Slot.filled f.text p.1 := by
    rintro ⟨slot, segment⟩ hmem
    have hslot : slot ∈ slots := (List.of_mem_zip hmem).1
    cases slot with
    | time key => exact absurd hslot (htemplate.ne_time key)
    | fixed phrase =>
      obtain ⟨later, words', hfits⟩ := hsegments.fits_of_mem_zip hmem
      exact hfits.1
    | greedy key =>
      obtain ⟨_, rfl, hget⟩ := h.get?_eq _ _ _ hmem rfl
      rw [hreturned.get?_eq, if_pos hslot] at hget
      exact (Value.words.inj (Option.some.inj hget)).symm
  calc segments
      = (slots.zip segments).map Prod.snd :=
        (List.map_snd_zip (Nat.le_of_eq hsegments.length_eq)).symm
    _ = (slots.zip segments).map (Slot.filled f.text ∘ Prod.fst) := List.map_congr_left hfilled
    _ = slots.map (Slot.filled f.text) := by
        rw [← List.map_map, List.map_fst_zip (Nat.le_of_eq hsegments.length_eq.symm)]

end Filling

/-- **What a grammar gets out of the sentences made from it.** The words of such a sentence are
those that it was made of. The grammar answers with the words for its greedy slots, under their
keys, exactly when no phrase after a greedy slot begins before its place; only a phrase at the end
of the row may.

**Proof sketch.** A row without time slots has the same answer at every time
(`Grammar.extract_eq_of_ne_time`), so the answer goes by the segmentation of the sentence. The words
that are got back determine the segments, slot by slot (`eq_map_of_isReturnedBy`), and these are as
they were made when no phrase begins before its place (`segmentation_iff`). -/
theorem Filling.isReturnedBy_extract_iff (grammar : Grammar) (htemplate : IsTemplate grammar.slots)
    (f : Filling grammar.slots) (now : Timestamp) :
    words f.sentence = f.allWords ∧
    ((∃ e, grammar.extract (words f.sentence) now = .ok (some e) ∧ f.IsReturnedBy e) ↔
      f.PhrasesInPlace) := by
  have hslots := grammar.wellFormed.separable
  have hroom := Timestamp.hasRoom_lastWithRoom
  refine ⟨f.words_sentence htemplate, ?_⟩
  rw [f.words_sentence htemplate, ← f.segmentation_iff hslots htemplate,
    grammar.extract_eq_of_ne_time htemplate.ne_time f.allWords now .lastWithRoom]
  constructor
  · rintro ⟨e, he, hreturned⟩
    obtain ⟨segments, rest, hsegments⟩ := Grammar.exists_segmentation_of_extract he
    obtain ⟨e', he', hrecords⟩ := Grammar.extract_of_segmentation hroom hsegments
    obtain rfl : e = e' := by simpa [he] using he'
    obtain rfl := eq_map_of_isReturnedBy htemplate hsegments hrecords hreturned
    -- the segments are all of the words, so nothing is left over
    have hall := hsegments.flatten_append
    rw [← List.flatMap_def] at hall
    rwa [List.self_eq_append_right.1 hall.symm] at hsegments
  · intro hsegments
    obtain ⟨e, he, hrecords⟩ := Grammar.extract_of_segmentation hroom hsegments
    exact ⟨e, he, isReturnedBy_of_records htemplate hrecords⟩

/-- A note for someone. -/
def noteFor : Grammar where
  slots := [.fixed ["note"], .greedy "text", .fixed ["for"], .greedy "who"]
  wellFormed := wellFormed_of_firstFault?_eq_none (by decide)

/-- Words for a note to oneself. -/
def Filling.noteForMe (ws : List String) (hne : ws ≠ []) (hws : ∀ w ∈ ws, IsWord w) :
    Filling noteFor.slots where
  text key := if key = "text" then ws else ["me"]
  isWord key _ := by
    split
    · exact hws
    · decide
  ne_nil front key next later _ := by
    split
    · exact hne
    · simp

/-- A note is got back if it does not have the word before the person in it. -/
theorem Filling.isReturnedBy_noteForMe :
    let milk := noteForMe ["buy", "milk"] (by decide) (by decide)
    let bus := noteForMe ["wait", "for", "it"] (by decide) (by decide)
    IsTemplate noteFor.slots ∧
      (∃ e, noteFor.extract (words milk.sentence) .lastWithRoom = .ok (some e) ∧
        milk.IsReturnedBy e) ∧
      ¬ ∃ e, noteFor.extract (words bus.sentence) .lastWithRoom = .ok (some e) ∧
        bus.IsReturnedBy e := by
  intro milk bus
  have htemplate : IsTemplate noteFor.slots := by
    refine ⟨by simp [noteFor], fun phrase hphrase => ?_⟩
    obtain rfl | rfl : phrase = ["note"] ∨ phrase = ["for"] := by simpa [noteFor] using hphrase
    · decide
    · decide
  refine ⟨htemplate, ?_, ?_⟩
  · refine (isReturnedBy_extract_iff noteFor htemplate milk _).2.2 ?_
    intro front key phrase later heq _ i hpos hlt hphrase
    -- `text` is the only greedy slot with a successor
    obtain ⟨rfl, rfl, rfl⟩ : key = "text" ∧ phrase = ["for"] ∧ later = [.greedy "who"] := by
      rcases front with _ | ⟨a, _ | ⟨b, _ | ⟨c, front⟩⟩⟩
      · simp [noteFor] at heq
      · simp only [noteFor, List.cons_append, List.nil_append, List.cons.injEq, Slot.greedy.injEq,
          Slot.fixed.injEq] at heq
        exact ⟨heq.2.1.symm, heq.2.2.1.symm, heq.2.2.2.symm⟩
      · simp [noteFor] at heq
      · have hlength := congrArg List.length heq
        simp [noteFor] at hlength
        omega
    obtain rfl : i = 1 := by
      have htwo : i < 2 := hlt
      omega
    exact absurd hphrase (by decide)
  · rw [(isReturnedBy_extract_iff noteFor htemplate bus _).2]
    intro hplaces
    have hnot := hplaces [.fixed ["note"]] "text" ["for"] [.greedy "who"] rfl (by simp) 1
    exact hnot (by decide) (by decide) (by decide)

end Utterance
