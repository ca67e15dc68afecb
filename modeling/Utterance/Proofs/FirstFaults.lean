import Mathlib.Data.List.Nodup
import Mathlib.Tactic.Lemma
import Utterance.Grammar

set_option autoImplicit false

/-!
# The first fault of a row of slots

A row of slots makes a grammar exactly when it is well formed. Otherwise the answer names the first
rule that the row violates, and with it what violates the rule first: the leftmost two greedy slots
that touch, or the leftmost slot whose key is no name or is the key of a slot before it.

## Main definitions

* `Utterance.IsFirstPlace`: the first place in a row of slots with a property.
* `Utterance.IsFirstFault`: the first rule that a row of slots violates, said by places.

## Main results

* `Utterance.adjacentGreedy?_eq_some_iff`, `Utterance.keyFault?_eq_some_iff`: the walks along the
  row find the first place with a fault.
* `Utterance.firstFault?_eq_some_iff`: checking rule after rule finds the first fault.
* `Utterance.Grammar.ofSlots_eq_iff`: the answer to a row of slots.
-/

namespace Utterance

open Text

/-! ## First places -/

/-- The first place in a row of slots where the slots before it and the slots from it on have the
property `p`. -/
structure IsFirstPlace (p : List Slot → List Slot → Prop) (slots front back : List Slot) :
    Prop where
  /-- The row is cut in two at the place. -/
  append_eq : front ++ back = slots
  /-- The two parts have the property. -/
  holds : p front back
  /-- No place with the property comes earlier. -/
  length_le : ∀ front' back', front' ++ back' = slots → p front' back' →
    front.length ≤ front'.length

namespace IsFirstPlace

variable {p p' : List Slot → List Slot → Prop} {slot : Slot} {slots front back : List Slot}

/-- Properties of the same places have the same first place. -/
lemma congr (h : ∀ front back, p front back ↔ p' front back) :
    IsFirstPlace p slots front back ↔ IsFirstPlace p' slots front back := by
  rw [show p = p' from funext fun front => funext fun back => propext (h front back)]

/-- Where the property holds at the beginning, that is the first place. -/
lemma iff_of_holds (h : p [] slots) :
    IsFirstPlace p slots front back ↔ front = [] ∧ back = slots := by
  constructor
  · intro hfirst
    have hle := hfirst.length_le [] slots rfl h
    obtain rfl : front = [] := List.length_eq_zero_iff.1 (Nat.le_zero.1 hle)
    exact ⟨rfl, hfirst.append_eq⟩
  · rintro ⟨rfl, rfl⟩
    exact ⟨rfl, h, fun _ _ _ _ => Nat.zero_le _⟩

/-- Where the property does not hold at the beginning, the first place comes after the first slot. -/
lemma cons_iff (h : ¬ p [] (slot :: slots)) :
    IsFirstPlace p (slot :: slots) front back ↔
      ∃ front', front = slot :: front' ∧
        IsFirstPlace (fun front back => p (slot :: front) back) slots front' back := by
  constructor
  · rintro ⟨happend, hholds, hle⟩
    cases front with
    | nil =>
      obtain rfl : back = slot :: slots := happend
      exact absurd hholds h
    | cons head front =>
      obtain ⟨rfl, htail⟩ := List.cons.inj happend
      refine ⟨front, rfl, htail, hholds, fun front' back' happend' hholds' => ?_⟩
      have := hle (head :: front') back' (congrArg (head :: ·) happend') hholds'
      exact Nat.le_of_succ_le_succ this
  · rintro ⟨front, rfl, happend, hholds, hle⟩
    refine ⟨congrArg (slot :: ·) happend, hholds, fun front' back' happend' hholds' => ?_⟩
    cases front' with
    | nil =>
      obtain rfl : back' = slot :: slots := happend'
      exact absurd hholds' h
    | cons head front' =>
      obtain ⟨rfl, htail⟩ := List.cons.inj happend'
      exact Nat.succ_le_succ (hle front' back' htail hholds')

variable (q : List Slot → Prop)

/-- What is asked of the slots from the first place on is asked of the whole row, where the property
holds at the beginning. -/
lemma exists_iff_of_holds (h : p [] slots) :
    (∃ front back, IsFirstPlace p slots front back ∧ q back) ↔ q slots := by
  simp only [iff_of_holds h]
  constructor
  · rintro ⟨_, _, ⟨rfl, rfl⟩, hq⟩
    exact hq
  · exact fun hq => ⟨[], slots, ⟨rfl, rfl⟩, hq⟩

/-- What is asked of the slots from the first place on is not touched by a slot before it. -/
lemma exists_cons_iff (h : ¬ p [] (slot :: slots)) :
    (∃ front back, IsFirstPlace p (slot :: slots) front back ∧ q back) ↔
      ∃ front back, IsFirstPlace (fun front back => p (slot :: front) back) slots front back ∧
        q back := by
  simp only [cons_iff h]
  constructor
  · rintro ⟨_, back, ⟨front, -, hplace⟩, hq⟩
    exact ⟨front, back, hplace, hq⟩
  · rintro ⟨front, back, hplace, hq⟩
    exact ⟨slot :: front, back, ⟨front, rfl, hplace⟩, hq⟩

/-- An empty row has no place for a property of slots that are there. -/
lemma not_exists_nil (h : ¬ p [] []) : ¬ ∃ front back, IsFirstPlace p [] front back ∧ q back := by
  rintro ⟨front, back, ⟨happend, hholds, -⟩, -⟩
  obtain ⟨rfl, rfl⟩ := List.append_eq_nil_iff.1 happend
  exact h hholds

end IsFirstPlace

/-! ## Greedy slots that touch -/

/-- Two greedy slots touch at a place. -/
def GreedyTouch (_front back : List Slot) : Prop :=
  ∃ first second later, back = .greedy first :: .greedy second :: later

section GreedyTouch

variable {slots : List Slot} {fault : DefinitionFault}

/-- **The leftmost greedy slots that touch** are found by walking along the row. -/
theorem adjacentGreedy?_eq_some_iff :
    adjacentGreedy? slots = some fault ↔
      ∃ front back, IsFirstPlace GreedyTouch slots front back ∧
        ∃ first second later, back = .greedy first :: .greedy second :: later ∧
          fault = .adjacentGreedy first second := by
  fun_induction adjacentGreedy? slots with
  | case1 first second later =>
    rw [IsFirstPlace.exists_iff_of_holds _ ⟨first, second, later, rfl⟩, Option.some.injEq]
    constructor
    · rintro rfl
      exact ⟨first, second, later, rfl, rfl⟩
    · rintro ⟨_, _, _, heq, rfl⟩
      cases heq
      rfl
  | case2 slot slots hslot ih =>
    have hnot : ¬ GreedyTouch [] (slot :: slots) := by
      rintro ⟨first, second, later, heq⟩
      obtain ⟨rfl, rfl⟩ := List.cons.inj heq
      exact hslot first second later rfl rfl
    rw [IsFirstPlace.exists_cons_iff _ hnot]
    exact ih
  | case3 =>
    have hnot : ¬ GreedyTouch [] [] := by
      rintro ⟨first, second, later, heq⟩
      cases heq
    simp only [IsFirstPlace.not_exists_nil _ hnot, reduceCtorEq]

/-- Where no greedy slots touch, the walk finds none. -/
lemma adjacentGreedy?_eq_none_iff :
    adjacentGreedy? slots = none ↔
      ∀ front back, front ++ back = slots → ¬ GreedyTouch front back := by
  constructor
  · rintro h front back happend ⟨first, second, later, rfl⟩
    exact not_adjacent_of_adjacentGreedy?_eq_none h front later first second happend.symm
  · intro h
    rw [Option.eq_none_iff_forall_ne_some]
    intro fault hfault
    obtain ⟨front, back, hplace, -⟩ := adjacentGreedy?_eq_some_iff.1 hfault
    exact h front back hplace.append_eq hplace.holds

end GreedyTouch

/-! ## Keys that fail -/

/-- The slot at a place has a key that is no name, is among `seen`, or is the key of a slot before
it. -/
def KeyFails (seen : List String) (front back : List Slot) : Prop :=
  ∃ slot later key, back = slot :: later ∧ slot.key? = some key ∧
    (isSnakeCase key = false ∨ key ∈ seen ∨ key ∈ slotKeys front)

/-- The fault of a key that is no name or has come before. One that is no name is told as that,
whether it has come before or not. -/
def keyFault (key : String) : DefinitionFault :=
  if isSnakeCase key then .repeatedKey key else .keyNotSnakeCase key

section KeyFails

variable {seen : List String} {slot : Slot} {slots front back : List Slot} {key : String}
  {fault : DefinitionFault}

/-- Behind a slot without a key the same keys fail as before it. -/
lemma keyFails_cons_of_none (hkey : slot.key? = none) :
    KeyFails seen (slot :: front) back ↔ KeyFails seen front back := by
  simp only [KeyFails, slotKeys_cons_of_none hkey]

/-- Behind a slot with a key, that key is among those that have come before. -/
lemma keyFails_cons_of_some (hkey : slot.key? = some key) :
    KeyFails seen (slot :: front) back ↔ KeyFails (key :: seen) front back := by
  simp only [KeyFails, slotKeys_cons_of_some hkey, List.mem_cons]
  refine exists_congr fun _ => exists_congr fun _ => exists_congr fun other => ?_
  rw [or_assoc, or_left_comm (a := other ∈ seen)]

/-- At the beginning of a row its first key is looked at. -/
lemma keyFails_nil_cons_iff :
    KeyFails seen [] (slot :: slots) ↔
      ∃ key, slot.key? = some key ∧ (isSnakeCase key = false ∨ key ∈ seen) := by
  constructor
  · rintro ⟨_, _, key, heq, hkey, hfails⟩
    obtain ⟨rfl, rfl⟩ := List.cons.inj heq
    exact ⟨key, hkey, by simpa [slotKeys] using hfails⟩
  · rintro ⟨key, hkey, hfails⟩
    exact ⟨slot, slots, key, rfl, hkey, by simpa [slotKeys] using hfails⟩

/-- The walk along the keys stops at a key that fails. -/
lemma keyFault?_cons_of_fails {keys : List String} (h : isSnakeCase key = false ∨ key ∈ seen) :
    keyFault? seen (key :: keys) = some (keyFault key) := by
  rw [keyFault?, keyFault]
  cases hsnake : isSnakeCase key with
  | false => rfl
  | true =>
    rw [hsnake, Bool.true_eq_false, false_or] at h
    simp [h]

/-- The walk along the keys goes on behind a key that does not fail. -/
lemma keyFault?_cons_of_not_fails {keys : List String}
    (h : ¬ (isSnakeCase key = false ∨ key ∈ seen)) :
    keyFault? seen (key :: keys) = keyFault? (key :: seen) keys := by
  rw [not_or, Bool.not_eq_false] at h
  rw [keyFault?, h.1, Bool.not_true, if_neg Bool.false_ne_true, if_neg h.2]

/-- **The leftmost slot whose key fails** is found by walking along the keys of the row.

**Proof sketch.** Induction on the row, for any keys that have been seen. A slot without a key is
passed over; the key of any other slot fails, or is seen by all slots after it. -/
theorem keyFault?_eq_some_iff :
    keyFault? seen (slotKeys slots) = some fault ↔
      ∃ front back, IsFirstPlace (KeyFails seen) slots front back ∧
        ∃ slot later key, back = slot :: later ∧ slot.key? = some key ∧ fault = keyFault key := by
  induction slots generalizing seen with
  | nil =>
    have hnot : ¬ KeyFails seen [] [] := by
      rintro ⟨slot, later, key, heq, -⟩
      cases heq
    simp only [IsFirstPlace.not_exists_nil _ hnot, slotKeys, List.filterMap_nil, keyFault?,
      reduceCtorEq]
  | cons head slots ih =>
    cases hkey : head.key? with
    | none =>
      have hnot : ¬ KeyFails seen [] (head :: slots) := by
        simp [keyFails_nil_cons_iff, hkey]
      rw [IsFirstPlace.exists_cons_iff _ hnot, slotKeys_cons_of_none hkey, ih]
      simp only [keyFails_cons_of_none hkey]
    | some key =>
      rw [slotKeys_cons_of_some hkey]
      by_cases hfails : isSnakeCase key = false ∨ key ∈ seen
      · rw [keyFault?_cons_of_fails hfails, Option.some.injEq, IsFirstPlace.exists_iff_of_holds _
          (keyFails_nil_cons_iff.2 ⟨key, hkey, hfails⟩)]
        constructor
        · rintro rfl
          exact ⟨head, slots, key, rfl, hkey, rfl⟩
        · rintro ⟨_, _, other, heq, hother, rfl⟩
          obtain ⟨rfl, rfl⟩ := List.cons.inj heq
          rw [Option.some.inj (hkey.symm.trans hother)]
      · have hnot : ¬ KeyFails seen [] (head :: slots) := by
          simpa [keyFails_nil_cons_iff, hkey] using hfails
        rw [keyFault?_cons_of_not_fails hfails, IsFirstPlace.exists_cons_iff _ hnot, ih]
        simp only [keyFails_cons_of_some hkey]

end KeyFails

/-! ## The first fault -/

/-- No greedy slots of the row touch. -/
def NoGreedyTouch (slots : List Slot) : Prop :=
  ∀ front back, front ++ back = slots → ¬ GreedyTouch front back

/-- The first rule that a row of slots violates, and what violates it first. -/
inductive IsFirstFault (slots : List Slot) : DefinitionFault → Prop
  /-- There is no slot. -/
  | noSlots : slots = [] → IsFirstFault slots .noSlots
  /-- The leftmost greedy slots that touch. -/
  | adjacentGreedy {front later : List Slot} {first second : String} :
      IsFirstPlace GreedyTouch slots front (.greedy first :: .greedy second :: later) →
        IsFirstFault slots (.adjacentGreedy first second)
  /-- A phrase without words, where no greedy slots touch. -/
  | emptyPhrase : NoGreedyTouch slots → .fixed [] ∈ slots → IsFirstFault slots .emptyPhrase
  /-- The leftmost slot whose key fails, where the other rules are kept. -/
  | key {front later : List Slot} {slot : Slot} {key : String} :
      NoGreedyTouch slots → .fixed [] ∉ slots →
        IsFirstPlace (KeyFails []) slots front (slot :: later) → slot.key? = some key →
          IsFirstFault slots (keyFault key)

section FirstFault

variable {slots : List Slot} {fault : DefinitionFault}

/-- A row has an empty phrase when a phrase of it is empty. -/
lemma any_isEmptyPhrase_iff : slots.any Slot.isEmptyPhrase = true ↔ .fixed [] ∈ slots := by
  rw [List.any_eq_true]
  constructor
  · rintro ⟨slot, hmem, hempty⟩
    cases slot with
    | fixed phrase => exact List.isEmpty_iff.1 hempty ▸ hmem
    | greedy key => cases hempty
    | time key => cases hempty
  · exact fun hmem => ⟨_, hmem, rfl⟩

/-- Checking rule after rule stops at the first fault. -/
lemma isFirstFault_of_firstFault? (h : firstFault? slots = some fault) :
    IsFirstFault slots fault := by
  rw [firstFault?] at h
  split at h
  · rename_i hempty
    cases h
    exact .noSlots (List.isEmpty_iff.1 hempty)
  · obtain h | ⟨hnone, h⟩ := Option.or_eq_some_iff.1 h
    · obtain ⟨front, _, hplace, first, second, later, rfl, rfl⟩ := adjacentGreedy?_eq_some_iff.1 h
      exact .adjacentGreedy hplace
    · have htouch := adjacentGreedy?_eq_none_iff.1 hnone
      split at h
      · rename_i hphrase
        cases h
        exact .emptyPhrase htouch (any_isEmptyPhrase_iff.1 hphrase)
      · rename_i hphrase
        rw [any_isEmptyPhrase_iff] at hphrase
        obtain ⟨front, _, hplace, slot, later, key, rfl, hkey, rfl⟩ := keyFault?_eq_some_iff.1 h
        exact .key htouch hphrase hplace hkey

/-- A row that is cut in two with a slot behind the cut is not empty. -/
lemma IsFirstPlace.isEmpty_eq_false {p : List Slot → List Slot → Prop} {front later : List Slot}
    {slot : Slot} (h : IsFirstPlace p slots front (slot :: later)) : slots.isEmpty = false := by
  rw [← h.append_eq]
  simp

/-- The first fault is where checking rule after rule stops. -/
lemma firstFault?_of_isFirstFault (h : IsFirstFault slots fault) :
    firstFault? slots = some fault := by
  cases h with
  | noSlots hslots =>
    subst hslots
    rfl
  | adjacentGreedy hplace =>
    have hsome := adjacentGreedy?_eq_some_iff.2 ⟨_, _, hplace, _, _, _, rfl, rfl⟩
    rw [firstFault?, hplace.isEmpty_eq_false, if_neg Bool.false_ne_true, hsome, Option.some_or]
  | emptyPhrase htouch hphrase =>
    have hempty : slots.isEmpty = false := List.isEmpty_eq_false_iff.2 (List.ne_nil_of_mem hphrase)
    rw [firstFault?, hempty, if_neg Bool.false_ne_true, adjacentGreedy?_eq_none_iff.2 htouch,
      Option.none_or, if_pos (any_isEmptyPhrase_iff.2 hphrase)]
  | key htouch hphrase hplace hkey =>
    have hsome := keyFault?_eq_some_iff.2 ⟨_, _, hplace, _, _, _, rfl, hkey, rfl⟩
    rw [← any_isEmptyPhrase_iff] at hphrase
    rw [firstFault?, hplace.isEmpty_eq_false, if_neg Bool.false_ne_true,
      adjacentGreedy?_eq_none_iff.2 htouch, Option.none_or, if_neg hphrase, hsome]

/-- **Checking rule after rule** finds the first fault. -/
theorem firstFault?_eq_some_iff : firstFault? slots = some fault ↔ IsFirstFault slots fault :=
  ⟨isFirstFault_of_firstFault?, firstFault?_of_isFirstFault⟩

/-- No key of a well-formed row fails. -/
lemma WellFormed.not_keyFails {front back : List Slot} (h : WellFormed (front ++ back)) :
    ¬ KeyFails [] front back := by
  rintro ⟨slot, later, key, rfl, hkey, hfails⟩
  have hkeys : slotKeys (front ++ slot :: later) = slotKeys front ++ key :: slotKeys later := by
    rw [slotKeys, List.filterMap_append, List.filterMap_cons_some hkey]
    rfl
  have hsnake := h.snakeCase key (by simp [hkeys])
  have hnodup := h.nodup
  rw [hkeys, List.nodup_middle, List.nodup_cons, List.mem_append, not_or] at hnodup
  obtain hfalse | hnil | hmem := hfails
  · rw [hsnake] at hfalse
    cases hfalse
  · cases hnil
  · exact hnodup.1.1 hmem

/-- A well-formed row violates no rule. -/
lemma WellFormed.not_isFirstFault (h : WellFormed slots) : ¬ IsFirstFault slots fault := by
  intro hfirst
  cases hfirst with
  | noSlots hslots => exact h.ne_nil hslots
  | adjacentGreedy hplace => exact h.not_adjacent _ _ _ _ hplace.append_eq.symm
  | emptyPhrase _ hphrase => exact h.phrase_ne_nil [] hphrase rfl
  | key _ _ hplace _ => exact (hplace.append_eq ▸ h).not_keyFails hplace.holds

/-- **The well-formed rows** are those without a fault. -/
theorem firstFault?_eq_none_iff : firstFault? slots = none ↔ WellFormed slots := by
  refine ⟨wellFormed_of_firstFault?_eq_none, fun h => ?_⟩
  rw [Option.eq_none_iff_forall_ne_some]
  exact fun fault hfault => h.not_isFirstFault (isFirstFault_of_firstFault? hfault)

end FirstFault

/-! ## Grammars -/

namespace Grammar

variable {slots : List Slot}

/-- Slots make a grammar when they have no fault, and the grammar has these slots. -/
lemma ofSlots_eq_ok_iff {grammar : Grammar} :
    ofSlots slots = .ok grammar ↔ grammar.slots = slots := by
  unfold ofSlots
  split
  · rw [Except.ok.injEq]
    constructor
    · rintro rfl
      rfl
    · rintro rfl
      rfl
  · rename_i fault hfault
    refine iff_of_false (by simp) ?_
    rintro rfl
    rw [firstFault?_eq_none_iff.2 grammar.wellFormed] at hfault
    cases hfault

/-- Slots with a fault make no grammar, and the answer is the fault. -/
lemma ofSlots_eq_error_iff {fault : DefinitionFault} :
    ofSlots slots = .error fault ↔ firstFault? slots = some fault := by
  unfold ofSlots
  split
  · rename_i hnone
    simp [hnone]
  · rename_i hsome
    simp [hsome]

/-- **The answer to a row of slots.** It is a grammar with exactly these slots when the row is well
formed: there is a slot, greedy slots do not touch, fixed phrases have words, and the keys are names
in snake case that differ. Otherwise it is the first fault of the row: a row without slots, the
leftmost two greedy slots that touch, a phrase without words, or the leftmost slot whose key is no
name or is the key of a slot before it.

**Proof sketch.** Checking rule after rule finds the first fault (`firstFault?_eq_some_iff`), and it
finds none exactly when the row is well formed (`firstFault?_eq_none_iff`). -/
theorem ofSlots_eq_iff (slots : List Slot) :
    ((∃ grammar, ofSlots slots = .ok grammar) ↔ WellFormed slots) ∧
    (∀ grammar, ofSlots slots = .ok grammar ↔ grammar.slots = slots) ∧
    (∀ fault, ofSlots slots = .error fault ↔ IsFirstFault slots fault) := by
  refine ⟨⟨?_, fun h => ⟨⟨slots, h⟩, ofSlots_eq_ok_iff.2 rfl⟩⟩, fun _ => ofSlots_eq_ok_iff,
    fun fault => ?_⟩
  · rintro ⟨grammar, hgrammar⟩
    exact ofSlots_eq_ok_iff.1 hgrammar ▸ grammar.wellFormed
  · rw [ofSlots_eq_error_iff, firstFault?_eq_some_iff]

end Grammar

end Utterance
