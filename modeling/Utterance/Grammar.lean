import Utterance.Slot
import Utterance.Text.SnakeCase

set_option autoImplicit false

/-!
# Grammars

A grammar is one sentence shape: a row of slots that can be told apart and whose keys are names.

## Main definitions

* `Utterance.WellFormed`: the rows of slots that make a grammar.
* `Utterance.Grammar`: a well-formed row of slots.
* `Utterance.DefinitionFault`: what is wrong with a grammar or a command.
* `Utterance.firstFault?`: the first rule that a row of slots violates.
* `Utterance.Grammar.ofSlots`: the grammar of a row of slots, or its first fault.

## Main results

* `Utterance.wellFormed_of_firstFault?_eq_none`: a row of slots without a fault is well formed.
-/

namespace Utterance

open Text

/-! ## Faults -/

/-- What is wrong with a grammar or a command. -/
inductive DefinitionFault where
  /-- A grammar has no slots. -/
  | noSlots
  /-- Two greedy slots with these keys stand next to each other. -/
  | adjacentGreedy (first second : String)
  /-- A fixed phrase has no words. -/
  | emptyPhrase
  /-- A key is not in snake case. -/
  | keyNotSnakeCase (key : String)
  /-- Two slots have the same key. -/
  | repeatedKey (key : String)
  /-- The name of a command is not in snake case. -/
  | nameNotSnakeCase (name : String)
  /-- A command has no grammars. -/
  | noGrammars (name : String)
  deriving DecidableEq

namespace DefinitionFault

/-- The wording of a fault, without the words that all faults share. -/
def reason : DefinitionFault → String
  | noSlots => "a grammar needs at least one slot"
  | adjacentGreedy first second =>
    "adjacent greedy slots Some(" ++ quoted first ++ ") and Some(" ++ quoted second ++
      ") cannot be told apart"
  | emptyPhrase => "a fixed phrase needs at least one word"
  | keyNotSnakeCase key => "key '" ++ key ++ "' is not snake_case"
  | repeatedKey key => "key '" ++ key ++ "' appears more than once"
  | nameNotSnakeCase name => "command name '" ++ name ++ "' is not snake_case"
  | noGrammars name => "command '" ++ name ++ "' has no grammars"

/-- The wording of a fault. -/
def message (fault : DefinitionFault) : String := "Grammar configuration error: " ++ fault.reason

end DefinitionFault

/-! ## Well-formed rows of slots -/

/-- The keys of a row of slots, in order. -/
def slotKeys (slots : List Slot) : List String := slots.filterMap Slot.key?

/-- A slot without a key adds none. -/
theorem slotKeys_cons_of_none {slot : Slot} {slots : List Slot} (h : slot.key? = none) :
    slotKeys (slot :: slots) = slotKeys slots :=
  List.filterMap_cons_none h

/-- A slot with a key adds it in front. -/
theorem slotKeys_cons_of_some {slot : Slot} {slots : List Slot} {key : String}
    (h : slot.key? = some key) : slotKeys (slot :: slots) = key :: slotKeys slots :=
  List.filterMap_cons_some h

/-- A row of slots that makes a grammar. -/
structure WellFormed (slots : List Slot) : Prop where
  /-- There is a slot. -/
  ne_nil : slots ≠ []
  /-- No greedy slot follows another. -/
  not_adjacent : ∀ front back first second,
    slots ≠ front ++ Slot.greedy first :: Slot.greedy second :: back
  /-- Every fixed phrase has words. -/
  phrase_ne_nil : ∀ phrase, Slot.fixed phrase ∈ slots → phrase ≠ []
  /-- Every key is in snake case. -/
  snakeCase : ∀ key ∈ slotKeys slots, isSnakeCase key = true
  /-- No key comes twice. -/
  nodup : (slotKeys slots).Nodup

/-- The leftmost two greedy slots that stand next to each other. -/
def adjacentGreedy? : List Slot → Option DefinitionFault
  | .greedy first :: .greedy second :: _ => some (.adjacentGreedy first second)
  | _ :: slots => adjacentGreedy? slots
  | [] => none

/-- The leftmost key that is not in snake case or that is among `seen` or the keys before it. -/
def keyFault? (seen : List String) : List String → Option DefinitionFault
  | [] => none
  | key :: keys =>
    if !isSnakeCase key then some (.keyNotSnakeCase key)
    else if key ∈ seen then some (.repeatedKey key)
    else keyFault? (key :: seen) keys

/-- The first rule that a row of slots violates: a slot is there, greedy slots do not touch, fixed
phrases have words, keys are in snake case and differ. -/
def firstFault? (slots : List Slot) : Option DefinitionFault :=
  if slots.isEmpty then some .noSlots
  else
    (adjacentGreedy? slots).or <|
      if slots.any Slot.isEmptyPhrase then some .emptyPhrase
      else keyFault? [] (slotKeys slots)

/-- Where the search finds no two greedy slots side by side, there are none. -/
theorem not_adjacent_of_adjacentGreedy?_eq_none {slots : List Slot}
    (h : adjacentGreedy? slots = none) (front back : List Slot) (first second : String) :
    slots ≠ front ++ .greedy first :: .greedy second :: back := by
  rintro rfl
  induction front with
  | nil => simp [adjacentGreedy?] at h
  | cons slot front ih =>
    apply ih
    rw [List.cons_append, adjacentGreedy?.eq_def] at h
    split at h
    · simp at h
    · simp_all
    · simp_all

/-- Keys without a fault are in snake case, differ from each other and from those already seen. -/
theorem snakeCase_and_nodup_of_keyFault?_eq_none {seen keys : List String}
    (h : keyFault? seen keys = none) :
    (∀ key ∈ keys, isSnakeCase key = true) ∧ keys.Nodup ∧ ∀ key ∈ keys, key ∉ seen := by
  induction keys generalizing seen with
  | nil => simp
  | cons key keys ih =>
    simp only [keyFault?] at h
    split at h
    · simp at h
    · rename_i hsnake
      split at h
      · simp at h
      · rename_i hseen
        obtain ⟨hall, hnodup, hnot⟩ := ih h
        refine ⟨?_, List.nodup_cons.2 ⟨fun hk => hnot key hk List.mem_cons_self, hnodup⟩, ?_⟩
        · intro k hk
          rcases List.mem_cons.1 hk with rfl | hk
          · simpa using hsnake
          · exact hall k hk
        · intro k hk
          rcases List.mem_cons.1 hk with rfl | hk
          · exact hseen
          · exact fun hs => hnot k hk (List.mem_cons_of_mem _ hs)

/-- **A row without a fault** is well-formed. -/
theorem wellFormed_of_firstFault?_eq_none {slots : List Slot} (h : firstFault? slots = none) :
    WellFormed slots := by
  simp only [firstFault?] at h
  split at h
  · simp at h
  · rename_i hne
    obtain ⟨hadj, h⟩ := Option.or_eq_none_iff.1 h
    split at h
    · simp at h
    · rename_i hphrase
      obtain ⟨hsnake, hnodup, -⟩ := snakeCase_and_nodup_of_keyFault?_eq_none h
      refine ⟨by simpa using hne, not_adjacent_of_adjacentGreedy?_eq_none hadj, ?_, hsnake, hnodup⟩
      rintro phrase hmem rfl
      exact hphrase (List.any_eq_true.2 ⟨_, hmem, rfl⟩)

/-! ## Grammars -/

/-- One sentence shape. -/
structure Grammar where
  /-- The slots, in the order of the sentence. -/
  slots : List Slot
  /-- The slots can be told apart and their keys are names. -/
  wellFormed : WellFormed slots

namespace Grammar

/-- The grammar of a row of slots, or its first fault. -/
def ofSlots (slots : List Slot) : Except DefinitionFault Grammar :=
  match h : firstFault? slots with
  | none => .ok ⟨slots, wellFormed_of_firstFault?_eq_none h⟩
  | some fault => .error fault

end Grammar

end Utterance
