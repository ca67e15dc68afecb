import Utterance.Proofs.Extraction
import Utterance.Proofs.Sentences

set_option autoImplicit false

/-!
# Reachable grammars

A grammar may be well formed and yet be the shape of no sentence. Sentences are put in lower case
and cut at their blanks, so a fixed phrase with a capital letter, with a blank inside a word or with
an empty word is never met. This is the only obstacle: if the words of the fixed phrases can come
out of a sentence, then so can one word for each greedy slot and `noon` for each time slot among
them, and the grammar finds these words in its slots again.

No longer phrase begins with `noon`, so a time slot stops there whatever the next slot takes. A
greedy slot cannot take less than one word, so its run ends with that word.

## Main definitions

* `Utterance.Slot.sample`: words that a slot finds again.

## Main results

* `Utterance.segmentation_sample`: the samples of a row of slots are a segmentation.
* `Utterance.Segmentation.mem_of_mem_phrase`: the words of fixed phrases are words of the sentence.
* `Utterance.Repertoire.exists_recognize_iff`: the reachable grammars.
-/

namespace Utterance

open Calendar Text

/-! ## Words for a slot -/

namespace RelativeTime

open TimeWord

/-- No longer phrase begins with `noon`. -/
lemma ofWords?_noon_cons {ws : List String} (h : ws ≠ []) : ofWords? ("noon" :: ws) = none := by
  obtain ⟨word, more, hmore⟩ := List.exists_cons_of_ne_nil (mt ofWords_eq_nil_iff.1 h)
  have hnoon : ofChars "noon".toList = noon := by decide
  rw [ofWords?, ofWords_cons_of_notMem (by decide), hnoon, hmore]
  rfl

end RelativeTime

namespace Slot

/-- Words that the slot finds again in front of the samples of later slots. -/
def sample : Slot → List String
  | fixed phrase => phrase
  | greedy _ => ["something"]
  | time _ => ["noon"]

variable {slot : Slot} {later : List Slot}

/-- A slot that is not greedy takes its sample, whatever follows. -/
lemma takes_sample (h : slot.isGreedy = false) (ws : List String) :
    slot.Takes (slot.sample ++ ws) slot.sample := by
  cases slot with
  | fixed phrase => exact ⟨rfl, List.prefix_append phrase ws⟩
  | greedy key => cases h
  | time key =>
    refine IsLongestRun.singleton ⟨⟨.today, 12, 0⟩, by decide⟩ fun run hrun _ => ?_
    rw [RelativeTime.ofWords?_noon_cons hrun]
    simp

/-- The sample of a slot in front of those of the slots after it is the segment of the slot. -/
lemma fits_sample (h : Separable (slot :: later)) :
    slot.Fits later (slot.sample ++ later.flatMap sample) slot.sample := by
  by_cases hslot : slot.isGreedy = false
  · exact (fits_iff_takes (.inl hslot)).2 (takes_sample hslot _)
  · cases slot with
    | fixed phrase => exact absurd rfl hslot
    | time key => exact absurd rfl hslot
    | greedy key =>
      cases later with
      | nil => exact (fits_iff_takes (.inr rfl)).2 rfl
      | cons next later =>
        have hnext := takes_sample h.isGreedy_eq_false (later.flatMap sample)
        have hlast : later.isEmpty = true → next.sample = next.sample ++ later.flatMap sample := by
          intro hempty
          obtain rfl := List.isEmpty_iff.1 hempty
          simp
        -- the run has one word, and no run has less
        exact ⟨by simp [sample], ⟨_, _, rfl, hnext, hlast⟩,
          fun other _ _ hne _ _ => List.length_pos_iff.2 hne⟩

/-- The samples of slots can be words of a sentence if those of the fixed phrases can. -/
lemma isWord_and_lowercase_of_mem_sample (h : ∀ phrase, slot = fixed phrase → ∀ w ∈ phrase,
    IsWord w ∧ lowercase w = w) {w : String} (hw : w ∈ slot.sample) :
    IsWord w ∧ lowercase w = w := by
  cases slot with
  | fixed phrase => exact h phrase rfl w hw
  | greedy key =>
    obtain rfl := List.mem_singleton.1 hw
    exact ⟨by decide, by decide +kernel⟩
  | time key =>
    obtain rfl := List.mem_singleton.1 hw
    exact ⟨by decide, by decide +kernel⟩

end Slot

/-! ## Words for a row of slots -/

/-- **The samples of a row of slots are a segmentation** of the words that they make. -/
theorem segmentation_sample {slots : List Slot} (h : Separable slots) :
    Segmentation slots (slots.flatMap Slot.sample) (slots.map Slot.sample) [] := by
  induction slots with
  | nil => exact .nil []
  | cons slot slots ih => exact .cons (Slot.fits_sample h) (ih h.tail)

/-- The words of the fixed phrases are words of the sentence. -/
lemma Segmentation.mem_of_mem_phrase {slots : List Slot} {ws rest phrase : List String}
    {segments : List (List String)} (h : Segmentation slots ws segments rest)
    (hphrase : .fixed phrase ∈ slots) {w : String} (hw : w ∈ phrase) : w ∈ ws := by
  induction h with
  | nil => cases hphrase
  | cons hfits _ ih =>
    rw [List.mem_append]
    obtain rfl | hphrase := List.mem_cons.1 hphrase
    · obtain ⟨rfl, -⟩ := (Slot.fits_iff_takes (.inl rfl)).1 hfits
      exact .inl hw
    · exact .inr (ih hphrase)

/-! ## Sentences for a grammar -/

namespace Repertoire

variable {grammar : Grammar} {command : Command}

/-- With one command of one grammar, a sentence is recognized exactly when the grammar has its
shape. -/
lemma exists_recognize_add_empty_iff (hcommand : command.grammars = [grammar]) {sentence : String}
    {now : Timestamp} :
    (∃ a, (empty.add command).recognize sentence now = .ok (some a)) ↔
      ∃ e, grammar.extract (words (lowercase sentence)) now = .ok (some e) := by
  have hrecognize : (empty.add command).recognize sentence now =
      bestOf (lowercase sentence) now none [command] := rfl
  rw [hrecognize, bestOf, Command.extract, hcommand, Command.firstExtract]
  rcases grammar.extract (words (lowercase sentence)) now with failure | _ | e
  · simp
  · simp [bestOf, Command.firstExtract]
  · simp [bestOf]

/-- **The reachable grammars.** A grammar that is alone in a repertoire is met by a sentence at some
time exactly when each word of its fixed phrases is not empty, holds no blank and is in lower case.

**Proof sketch.** The words of the fixed phrases are words of the sentence
(`Segmentation.mem_of_mem_phrase`). Conversely the samples of the slots are the words of a sentence
(`exists_words_lowercase_eq_iff`) and its segmentation (`segmentation_sample`). -/
theorem exists_recognize_iff (grammar : Grammar) (command : Command)
    (hcommand : command.grammars = [grammar]) :
    (∃ sentence now a, (empty.add command).recognize sentence now = .ok (some a)) ↔
      ∀ phrase, Slot.fixed phrase ∈ grammar.slots → ∀ w ∈ phrase,
        w ≠ "" ∧ (∀ c ∈ w.toList, isBlank c = false) ∧ lowercase w = w := by
  constructor
  · rintro ⟨sentence, now, hrecognize⟩ phrase hphrase w hw
    obtain ⟨e, he⟩ := (exists_recognize_add_empty_iff hcommand).1 hrecognize
    obtain ⟨segments, rest, h⟩ := Grammar.exists_segmentation_of_extract he
    have hmem := h.mem_of_mem_phrase hphrase hw
    obtain ⟨hword, hlower⟩ := exists_words_lowercase_eq_iff.1 ⟨sentence, rfl⟩ w hmem
    exact ⟨hword.ne_empty, hword.not_isBlank, hlower⟩
  · intro hphrases
    have hsample : ∀ w ∈ grammar.slots.flatMap Slot.sample, IsWord w ∧ lowercase w = w := by
      intro w hw
      obtain ⟨slot, hslot, hw⟩ := List.mem_flatMap.1 hw
      refine Slot.isWord_and_lowercase_of_mem_sample (fun phrase hfixed v hv => ?_) hw
      obtain ⟨hne, hblank, hlower⟩ := hphrases phrase (hfixed ▸ hslot) v hv
      exact ⟨⟨hne, hblank⟩, hlower⟩
    obtain ⟨sentence, hsentence⟩ := exists_words_lowercase_eq_iff.2 hsample
    have hsegments := segmentation_sample grammar.wellFormed.separable
    rw [← hsentence] at hsegments
    obtain ⟨e, he, -⟩ :=
      Grammar.extract_of_segmentation Timestamp.hasRoom_lastWithRoom hsegments
    exact ⟨sentence, .lastWithRoom, (exists_recognize_add_empty_iff hcommand).2 ⟨e, he⟩⟩

/-- The question for the weather is met by a sentence, a phrase with a capital letter by none. -/
theorem exists_recognize_weather : Command.weather.grammars = [showWeather] ∧
    (∃ sentence now a,
      (empty.add Command.weather).recognize sentence now = .ok (some a)) ∧
    ∃ (shout : Grammar) (command : Command), command.grammars = [shout] ∧
      shout.slots = [.fixed ["Show"], .greedy "thing"] ∧
      ¬ ∃ sentence now a, (empty.add command).recognize sentence now = .ok (some a) := by
  have hweather : Command.weather.grammars = [showWeather] := rfl
  let shout : Grammar :=
    ⟨[.fixed ["Show"], .greedy "thing"], wellFormed_of_firstFault?_eq_none (by decide)⟩
  let command : Command := ⟨"show", [shout], by decide, by decide⟩
  refine ⟨hweather, (exists_recognize_iff showWeather _ hweather).2 ?_, shout, command, rfl, rfl, ?_⟩
  · have hwords : ∀ w ∈ ["show", "me", "the", "weather"], IsWord w ∧ lowercase w = w := by
      decide +kernel
    intro phrase hphrase w hw
    obtain rfl : phrase = ["show", "me", "the", "weather"] := by simpa [showWeather] using hphrase
    obtain ⟨hword, hlower⟩ := hwords w hw
    exact ⟨hword.ne_empty, hword.not_isBlank, hlower⟩
  · rw [exists_recognize_iff shout command rfl]
    intro hphrases
    obtain ⟨-, -, hlower⟩ := hphrases ["Show"] List.mem_cons_self "Show" List.mem_cons_self
    exact absurd hlower (by decide +kernel)

end Repertoire

end Utterance
