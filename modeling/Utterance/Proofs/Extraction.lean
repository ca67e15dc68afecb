import Utterance.Proofs.KeptValues
import Utterance.Proofs.Segmentation
import Utterance.Repertoire.Builtin

set_option autoImplicit false

/-!
# What a grammar gets out of a sentence

A grammar gets something out of a sentence exactly when the words of the sentence have a
segmentation along its slots, and what it gets are the values of the segments under the keys of
their slots. The calendar must not end within the next eight days; then nothing goes wrong.

## Main definitions

* `Utterance.Extract.Records`: an extract holds the values of the segments of a row of slots.

## Main results

* `Utterance.Grammar.extract_of_segmentation`, `Utterance.Grammar.extract_of_not_segmentation`: the
  two answers of a grammar.
* `Utterance.Grammar.extract_iff_segmentation`: a grammar answers by the segmentation.
-/

namespace Utterance

open Calendar Text

/-! ## The values of a row of slots -/

/-- The extract holds the values of the segments of a row of slots, and nothing else. -/
structure Extract.Records (e : Extract) (slots : List Slot) (segments : List (List String))
    (now : Timestamp) : Prop where
  /-- There is no data exactly when no slot has a key. -/
  eq_noData_iff : e = .noData ↔ ∀ slot ∈ slots, slot.key? = none
  /-- The keys are those of the slots. -/
  mem_keys_iff : ∀ key, key ∈ e.values.keys ↔ key ∈ slotKeys slots
  /-- Each key has the value of the segment of its slot. -/
  get?_eq : ∀ slot segment key, (slot, segment) ∈ slots.zip segments → slot.key? = some key →
    ∃ value, slot.HasValue now segment value ∧ e.get? key = some value

variable {slots : List Slot} {segments : List (List String)} {now : Timestamp}

/-- A row has no keys when none of its slots has one. -/
lemma slotKeys_eq_nil_iff : slotKeys slots = [] ↔ ∀ slot ∈ slots, slot.key? = none :=
  List.filterMap_eq_nil_iff

/-- Segments as many as the slots stand for the slots one by one. -/
lemma map_slot_zipWith (h : segments.length = slots.length) :
    (slots.zipWith Segment.mk segments).map Segment.slot = slots := by
  rw [List.map_zipWith, ← List.map_uncurry_zip_eq_zipWith]
  exact List.map_fst_zip (Nat.le_of_eq h.symm)

/-- An extract is without data when there are no bindings. -/
lemma Extract.ofBindings_eq_noData_iff {b : Bindings} :
    Extract.ofBindings b = .noData ↔ b.isEmpty = true := by
  unfold ofBindings
  split <;> simp [*]

/-- No data stand for bindings without keys. -/
@[simp] lemma Extract.values_ofBindings (b : Bindings) : (Extract.ofBindings b).values = b := by
  unfold ofBindings
  split
  · rename_i hempty
    obtain ⟨entries, hascending⟩ := b
    obtain rfl : entries = [] := by simpa [Bindings.isEmpty] using hempty
    rfl
  · rfl

/-- The values kept of the segments of a row of slots make the extract of the row. -/
lemma Extract.records_ofBindings (hnodup : (slotKeys slots).Nodup)
    (hlength : segments.length = slots.length) {values : Bindings}
    (h : keepAll now .empty (slots.zipWith Segment.mk segments) = .ok values) :
    (Extract.ofBindings values).Records slots segments now := by
  have hslots := map_slot_zipWith hlength
  rw [← hslots] at hnodup
  have hkeys : ∀ key, key ∈ values.keys ↔ key ∈ slotKeys slots := by
    intro key
    rw [mem_keys_of_keepAll h hnodup, hslots]
  refine ⟨?_, ?_, ?_⟩
  · rw [ofBindings_eq_noData_iff, Bindings.isEmpty_iff, ← slotKeys_eq_nil_iff,
      List.eq_nil_iff_forall_not_mem]
    exact forall_congr' fun key => not_congr (hkeys key)
  · intro key
    rw [values_ofBindings]
    exact hkeys key
  · intro slot segment key hmem hkey
    rw [Extract.get?, values_ofBindings]
    have hsegment : Segment.mk slot segment ∈ slots.zipWith Segment.mk segments := by
      rw [← List.map_uncurry_zip_eq_zipWith]
      exact List.mem_map.2 ⟨_, hmem, rfl⟩
    exact get?_of_keepAll h hnodup hsegment hkey

/-- A key that belongs to no slot has no value. -/
lemma Extract.Records.get?_eq_none {e : Extract} (h : e.Records slots segments now) {key : String}
    (hkey : key ∉ slotKeys slots) : e.get? key = none := by
  cases hget : e.get? key with
  | none => rfl
  | some value =>
    exact absurd ((h.mem_keys_iff key).1 (Bindings.mem_keys_iff.2 ⟨value, hget⟩)) hkey

/-! ## The answers of a grammar -/

namespace Grammar

variable {grammar : Grammar} {ws rest : List String}

/-- The time slots that a cut along the slots of a grammar has reached hold time phrases. -/
lemma holdsPhrase_of_mem_cut (grammar : Grammar) (ws : List String) :
    ∀ segment ∈ (cut grammar.slots ws).segments, segment.HoldsPhrase := by
  rintro ⟨_, _⟩ hmem key rfl
  exact exists_ofWords?_of_mem_cut grammar.wellFormed.separable hmem

/-- With eight days to follow, the segments of a cut always have values. -/
lemma exists_keepAll_cut (grammar : Grammar) (hnow : now.HasRoom) (ws : List String) :
    ∃ values, keepAll now .empty (cut grammar.slots ws).segments = .ok values :=
  exists_keepAll hnow (grammar.holdsPhrase_of_mem_cut ws) .empty

/-- Where the words have a segmentation, a grammar answers with the values of its segments. -/
lemma extract_eq_of_keepAll (h : Segmentation grammar.slots ws segments rest) {values : Bindings}
    (hvalues : keepAll now .empty (grammar.slots.zipWith Segment.mk segments) = .ok values) :
    grammar.extract ws now = .ok (some (.ofBindings values)) := by
  simp only [extract, cut_of_segmentation grammar.wellFormed.separable h, hvalues]

/-- **Words with a segmentation have an extract**, and it holds the values of the segments. -/
theorem extract_of_segmentation (hnow : now.HasRoom)
    (h : Segmentation grammar.slots ws segments rest) :
    ∃ e, grammar.extract ws now = .ok (some e) ∧ e.Records grammar.slots segments now := by
  obtain ⟨values, hvalues⟩ := exists_keepAll_cut grammar hnow ws
  rw [cut_of_segmentation grammar.wellFormed.separable h] at hvalues
  exact ⟨_, extract_eq_of_keepAll h hvalues,
    Extract.records_ofBindings grammar.wellFormed.nodup h.length_eq hvalues⟩

/-- **Words without a segmentation have no extract**, and nothing goes wrong. -/
theorem extract_of_not_segmentation (hnow : now.HasRoom)
    (h : ∀ segments rest, ¬ Segmentation grammar.slots ws segments rest) :
    grammar.extract ws now = .ok none := by
  obtain ⟨values, hvalues⟩ := exists_keepAll_cut grammar hnow ws
  simp only [extract, hvalues, ending_cut_of_not_segmentation grammar.wellFormed.separable h]

/-- What has an extract has a segmentation, at any time. -/
theorem exists_segmentation_of_extract {e : Extract}
    (he : grammar.extract ws now = .ok (some e)) :
    ∃ segments rest, Segmentation grammar.slots ws segments rest := by
  obtain ⟨segments, rest, h, -⟩ | ⟨hending, -⟩ := cut_spec grammar.wellFormed.separable ws
  · exact ⟨segments, rest, h⟩
  · -- a cut that stops gives no extract, whether its segments have values or not
    simp only [extract, hending] at he
    split at he <;> cases he

/-- With eight days to follow, a grammar always answers. -/
theorem exists_extract (grammar : Grammar) (hnow : now.HasRoom) (ws : List String) :
    ∃ answer, grammar.extract ws now = .ok answer := by
  by_cases h : ∃ segments rest, Segmentation grammar.slots ws segments rest
  · obtain ⟨segments, rest, h⟩ := h
    obtain ⟨e, he, -⟩ := extract_of_segmentation hnow h
    exact ⟨some e, he⟩
  · exact ⟨none, extract_of_not_segmentation hnow fun segments rest h' => h ⟨segments, rest, h'⟩⟩

/-- **A grammar answers by the segmentation of the sentence.** There is an extract exactly when the
words of the sentence have a segmentation along the slots, it holds the values of the segments, and
there is one segmentation only. Without a segmentation the answer is that there is no extract.

**Proof sketch.** The cut of the words follows the segmentation (`cut_spec`), and with eight days
to follow the values of its segments never fail (`exists_keepAll`). -/
theorem extract_iff_segmentation (grammar : Grammar) (sentence : String) {now : Timestamp}
    (hnow : now.HasRoom) :
    ((∃ e, grammar.extract (words sentence) now = .ok (some e)) ↔
      ∃ segments rest, Segmentation grammar.slots (words sentence) segments rest) ∧
    (∀ e segments rest, grammar.extract (words sentence) now = .ok (some e) →
      Segmentation grammar.slots (words sentence) segments rest →
        e.Records grammar.slots segments now) ∧
    (∀ segments segments' rest rest', Segmentation grammar.slots (words sentence) segments rest →
      Segmentation grammar.slots (words sentence) segments' rest' →
        segments = segments' ∧ rest = rest') ∧
    ((∀ segments rest, ¬ Segmentation grammar.slots (words sentence) segments rest) →
      grammar.extract (words sentence) now = .ok none) := by
  refine ⟨⟨?_, ?_⟩, ?_, ?_, extract_of_not_segmentation hnow⟩
  · rintro ⟨e, he⟩
    exact exists_segmentation_of_extract he
  · rintro ⟨segments, rest, h⟩
    obtain ⟨e, he, -⟩ := extract_of_segmentation hnow h
    exact ⟨e, he⟩
  · intro e segments rest he h
    obtain ⟨e', he', hrecords⟩ := extract_of_segmentation hnow h
    obtain rfl : e = e' := by simpa [he] using he'
    exact hrecords
  · intro segments segments' rest rest' h h'
    exact h.unique h'

/-- A reminder at the end of the calendar has its time at the end of the sentence. -/
theorem extract_timeLast_call_tonight : Timestamp.lastWithRoom.HasRoom ∧
    ∃ e segments rest,
      timeLast.extract (words "remind me to call tonight") .lastWithRoom = .ok (some e) ∧
      Segmentation timeLast.slots (words "remind me to call tonight") segments rest ∧
      e.Records timeLast.slots segments .lastWithRoom := by
  have hroom := Timestamp.hasRoom_lastWithRoom
  obtain ⟨hiff, hrecords, -⟩ :=
    extract_iff_segmentation timeLast "remind me to call tonight" hroom
  have hextract : ∃ e,
      timeLast.extract (words "remind me to call tonight") .lastWithRoom = .ok (some e) := ⟨_, rfl⟩
  obtain ⟨segments, rest, hsegments⟩ := hiff.1 hextract
  obtain ⟨e, he⟩ := hextract
  exact ⟨hroom, e, segments, rest, he, hsegments, hrecords e segments rest he hsegments⟩

end Grammar

end Utterance
