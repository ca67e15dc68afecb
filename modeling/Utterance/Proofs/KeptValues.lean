import Utterance.Extract
import Utterance.Proofs.CalendarRoom
import Utterance.Proofs.TimePhrases

set_option autoImplicit false

/-!
# The values of segments

The segments of a cut give their values to the keys of their slots. With eight days to follow in
the calendar a time phrase always has a value, so nothing can go wrong; and since no key comes
twice, each key has the value of its own segment in the end.

## Main definitions

* `Utterance.Slot.HasValue`: the value of some words for a slot.
* `Utterance.Segment.HoldsPhrase`, `Utterance.Segment.WithinCalendar`: what the words of a time slot
  need for a value.

## Main results

* `Utterance.keepAll_cases`: keeping the values of segments fails at the end of the calendar only.
* `Utterance.get?_of_keepAll`: each key has the value of its segment.
* `Utterance.mem_keys_of_keepAll`: no other key has a value.
-/

namespace Utterance

open Calendar

/-! ## Keys with values -/

namespace Bindings

/-- The keys are those that have a value. -/
lemma mem_keys_iff {b : Bindings} {key : String} :
    key ∈ b.keys ↔ ∃ value, b.get? key = some value := by
  rw [get?, ← Option.isSome_iff_exists, Option.isSome_iff_ne_none, ne_eq, List.lookup_eq_none_iff]
  simp [keys]

/-- Nothing is bound exactly when no key has a value. -/
lemma isEmpty_iff {b : Bindings} : b.isEmpty = true ↔ ∀ key, key ∉ b.keys := by
  rw [isEmpty, List.isEmpty_iff, ← List.eq_nil_iff_forall_not_mem, keys, List.map_eq_nil_iff]

end Bindings

/-! ## Values of words -/

/-- With eight days to follow, a time phrase names a time in the calendar. -/
theorem RelativeTime.exists_resolve?_of_ofWords? {words : List String} {t : RelativeTime}
    {now : Timestamp} (hnow : now.HasRoom) (h : ofWords? words = some t) :
    ∃ stamp, t.resolve? now = some stamp := by
  obtain ⟨hhour, hminute⟩ := le_of_ofWords? h
  exact exists_resolve? hhour hminute hnow

namespace Slot

/-- The value of some words for a slot, seen from `now`: the time that they name for a time slot,
the words themselves for any other. -/
def HasValue (now : Timestamp) : Slot → (words : List String) → Value → Prop
  | time _, words, value => ∃ t stamp, RelativeTime.ofWords? words = some t ∧
      t.resolve? now = some stamp ∧ value = .time stamp
  | _, words, value => value = .words words

variable {slot : Slot} {words : List String} {now : Timestamp}

/-- A slot gives the words a value when it is the value they have. -/
lemma value_eq_ok_iff {value : Value} :
    slot.value words now = .ok value ↔ slot.HasValue now words value := by
  cases slot with
  | fixed phrase => simp [Slot.value, HasValue, eq_comm]
  | greedy key => simp [Slot.value, HasValue, eq_comm]
  | time key =>
    simp only [Slot.value, timeNamed, HasValue]
    cases RelativeTime.ofWords? words with
    | none => simp
    | some t => cases hstamp : t.resolve? now <;> simp [hstamp, eq_comm]

end Slot

/-! ## The times of segments -/

namespace Segment

/-- If the slot is a time slot, the words are a time phrase. -/
def HoldsPhrase (segment : Segment) : Prop :=
  ∀ key, segment.slot = .time key → ∃ t, RelativeTime.ofWords? segment.words = some t

/-- If the segment names a time, that time is in the calendar, seen from `now`. -/
def WithinCalendar (now : Timestamp) (segment : Segment) : Prop :=
  ∀ key t, segment.slot = .time key → RelativeTime.ofWords? segment.words = some t →
    ∃ stamp, t.resolve? now = some stamp

/-- With eight days to follow, every time is in the calendar. -/
lemma withinCalendar_of_hasRoom {now : Timestamp} (segment : Segment) (hnow : now.HasRoom) :
    segment.WithinCalendar now :=
  fun _ _ _ ht => RelativeTime.exists_resolve?_of_ofWords? hnow ht

end Segment

/-! ## Keeping the values of segments -/

section KeepAll

variable {now : Timestamp} {segment : Segment} {segments : List Segment} {kept values : Bindings}
  {key : String}

/-- Keeping the value of a segment binds the key of its slot, if it has one. -/
lemma keep_eq_ok_iff : keep now kept segment = .ok values ↔
    (segment.slot.key? = none ∧ values = kept) ∨
      ∃ key value, segment.slot.key? = some key ∧
        segment.slot.value segment.words now = .ok value ∧ values = kept.insert key value := by
  unfold keep
  cases hkey : segment.slot.key? with
  | none => simp [eq_comm]
  | some key => cases segment.slot.value segment.words now <;> simp [eq_comm]

/-- The values of several segments are kept one after the other. -/
lemma keepAll_cons_eq_ok_iff : keepAll now kept (segment :: segments) = .ok values ↔
    ∃ kept', keep now kept segment = .ok kept' ∧ keepAll now kept' segments = .ok values := by
  rw [keepAll]
  cases keep now kept segment <;> simp

/-- Keeping the value of a segment fails at the end of the calendar only. -/
lemma keep_cases (now : Timestamp) (kept : Bindings) (hphrase : segment.HoldsPhrase) :
    (segment.WithinCalendar now ∧ ∃ kept', keep now kept segment = .ok kept') ∨
      (¬ segment.WithinCalendar now ∧ keep now kept segment = .error .calendarEnd) := by
  obtain ⟨slot, words⟩ := segment
  cases slot with
  | fixed phrase => exact .inl ⟨nofun, kept, rfl⟩
  | greedy key => exact .inl ⟨nofun, kept.insert key (.words words), rfl⟩
  | time key =>
    obtain ⟨t, ht⟩ := hphrase key rfl
    have hwithin : Segment.WithinCalendar now ⟨.time key, words⟩ ↔
        ∃ stamp, t.resolve? now = some stamp := by
      constructor
      · exact fun h => h key t rfl ht
      · rintro h _ t' - ht'
        obtain rfl : t = t' := Option.some.inj (ht.symm.trans ht')
        exact h
    dsimp only at ht
    rw [hwithin]
    cases hstamp : t.resolve? now with
    | none => simp [keep, Slot.key?, Slot.value, timeNamed, ht, hstamp]
    | some stamp => simp [keep, Slot.key?, Slot.value, timeNamed, ht, hstamp]

/-- Keeping the values of segments fails at the end of the calendar only, as soon as one of them
names a time behind it. -/
theorem keepAll_cases (now : Timestamp) (kept : Bindings)
    (hsegments : ∀ segment ∈ segments, segment.HoldsPhrase) :
    ((∀ segment ∈ segments, segment.WithinCalendar now) ∧
        ∃ values, keepAll now kept segments = .ok values) ∨
      ((¬ ∀ segment ∈ segments, segment.WithinCalendar now) ∧
        keepAll now kept segments = .error .calendarEnd) := by
  induction segments generalizing kept with
  | nil => exact .inl ⟨by simp, kept, rfl⟩
  | cons segment segments ih =>
    rw [List.forall_mem_cons] at hsegments
    simp only [List.forall_mem_cons, keepAll]
    obtain ⟨hhead, kept', hkeep⟩ | ⟨hhead, hkeep⟩ := keep_cases now kept hsegments.1
    · rw [hkeep]
      obtain ⟨htail, hvalues⟩ | ⟨htail, herror⟩ := ih kept' hsegments.2
      · exact .inl ⟨⟨hhead, htail⟩, hvalues⟩
      · exact .inr ⟨fun h => htail h.2, herror⟩
    · rw [hkeep]
      exact .inr ⟨fun h => hhead h.1, rfl⟩

/-- Segments whose time slots hold time phrases have values, with eight days to follow. -/
theorem exists_keepAll (hnow : now.HasRoom) (hsegments : ∀ segment ∈ segments, segment.HoldsPhrase)
    (kept : Bindings) : ∃ values, keepAll now kept segments = .ok values := by
  obtain ⟨-, hvalues⟩ | ⟨hnot, -⟩ := keepAll_cases now kept hsegments
  · exact hvalues
  · exact absurd (fun segment _ => segment.withinCalendar_of_hasRoom hnow) hnot

/-- A key that belongs to no segment keeps the value that it had. -/
lemma get?_of_keepAll_of_notMem (h : keepAll now kept segments = .ok values)
    (hkey : key ∉ slotKeys (segments.map Segment.slot)) : values.get? key = kept.get? key := by
  induction segments generalizing kept with
  | nil =>
    cases h
    rfl
  | cons segment segments ih =>
    obtain ⟨kept', hkeep, hrest⟩ := keepAll_cons_eq_ok_iff.1 h
    rw [keep_eq_ok_iff] at hkeep
    obtain ⟨hnone, rfl⟩ | ⟨other, value, hother, -, rfl⟩ := hkeep
    · rw [List.map_cons, slotKeys_cons_of_none hnone] at hkey
      exact ih hrest hkey
    · rw [List.map_cons, slotKeys_cons_of_some hother, List.mem_cons, not_or] at hkey
      rw [ih hrest hkey.2, Bindings.get?_insert, if_neg hkey.1]

/-- A key that belongs to one segment only has the value of that segment. -/
theorem get?_of_keepAll (h : keepAll now kept segments = .ok values)
    (hnodup : (slotKeys (segments.map Segment.slot)).Nodup) (hmem : segment ∈ segments)
    (hkey : segment.slot.key? = some key) :
    ∃ value, segment.slot.HasValue now segment.words value ∧ values.get? key = some value := by
  induction segments generalizing kept with
  | nil => simp at hmem
  | cons head segments ih =>
    obtain ⟨kept', hkeep, hrest⟩ := keepAll_cons_eq_ok_iff.1 h
    rw [keep_eq_ok_iff] at hkeep
    obtain ⟨hnone, rfl⟩ | ⟨other, value, hother, hvalue, rfl⟩ := hkeep
    · rw [List.map_cons, slotKeys_cons_of_none hnone] at hnodup
      obtain rfl | hmem := List.mem_cons.1 hmem
      · rw [hnone] at hkey
        cases hkey
      · exact ih hrest hnodup hmem
    · rw [List.map_cons, slotKeys_cons_of_some hother, List.nodup_cons] at hnodup
      obtain rfl | hmem := List.mem_cons.1 hmem
      · obtain rfl : key = other := by simpa [hkey] using hother
        refine ⟨value, Slot.value_eq_ok_iff.1 hvalue, ?_⟩
        rw [get?_of_keepAll_of_notMem hrest hnodup.1, Bindings.get?_insert, if_pos rfl]
      · exact ih hrest hnodup.2 hmem

/-- The keys that have a value are those of the segments. -/
theorem mem_keys_of_keepAll (h : keepAll now .empty segments = .ok values)
    (hnodup : (slotKeys (segments.map Segment.slot)).Nodup) :
    key ∈ values.keys ↔ key ∈ slotKeys (segments.map Segment.slot) := by
  rw [Bindings.mem_keys_iff]
  constructor
  · rintro ⟨value, hvalue⟩
    by_contra hkey
    rw [get?_of_keepAll_of_notMem h hkey, Bindings.get?_empty] at hvalue
    cases hvalue
  · intro hkey
    obtain ⟨slot, hslot, hsegment⟩ := List.mem_filterMap.1 hkey
    obtain ⟨segment, hmem, rfl⟩ := List.mem_map.1 hslot
    obtain ⟨value, -, hvalue⟩ := get?_of_keepAll h hnodup hmem hsegment
    exact ⟨value, hvalue⟩

end KeepAll

end Utterance
