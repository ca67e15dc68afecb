import Utterance.Slot

set_option autoImplicit false

/-!
# Bindings

The values that a sentence gives to keys. Each key has one value, and the keys stand in ascending
order of their characters.

## Main definitions

* `Utterance.Bindings`: keys with values, in ascending order of the keys.
* `Utterance.Bindings.insert`: gives a key a value, in place of the one it had.
* `Utterance.Bindings.get?`: the value of a key.

## Main results

* `Utterance.Bindings.get?_insert`: an insertion changes the value of its key alone.
-/

namespace Utterance

/-- Keys with values, in ascending order of the keys. -/
structure Bindings where
  /-- The keys with their values. -/
  entries : List (String × Value)
  /-- The keys ascend, so no key comes twice. -/
  ascending : entries.Pairwise fun a b => a.1 < b.1
  deriving DecidableEq

namespace Bindings

/-- No key has a value. -/
def empty : Bindings := ⟨[], .nil⟩

/-- Whether no key has a value. -/
def isEmpty (b : Bindings) : Bool := b.entries.isEmpty

/-- The keys, in ascending order. -/
def keys (b : Bindings) : List String := b.entries.map Prod.fst

/-- The value of a key. -/
def get? (b : Bindings) (key : String) : Option Value := b.entries.lookup key

/-- Puts an entry in its place among ascending entries, over the one with its key. -/
def insertEntry (key : String) (value : Value) : List (String × Value) → List (String × Value)
  | [] => [(key, value)]
  | (k, v) :: entries =>
    if key < k then (key, value) :: (k, v) :: entries
    else if key = k then (key, value) :: entries
    else (k, v) :: insertEntry key value entries

/-- An entry after an insertion is the one put in or was there before. -/
theorem mem_insertEntry {key : String} {value : Value} {entries : List (String × Value)}
    {e : String × Value} (h : e ∈ insertEntry key value entries) :
    e = (key, value) ∨ e ∈ entries := by
  induction entries with
  | nil => simpa [insertEntry] using h
  | cons head entries ih =>
    obtain ⟨k, v⟩ := head
    simp only [insertEntry] at h
    split at h
    · simpa using h
    · split at h
      · rcases List.mem_cons.1 h with h | h
        · exact .inl h
        · exact .inr (List.mem_cons_of_mem _ h)
      · rcases List.mem_cons.1 h with h | h
        · exact .inr (h ▸ List.mem_cons_self)
        · exact (ih h).imp_right (List.mem_cons_of_mem _)

/-- An insertion keeps the keys ascending. -/
theorem ascending_insertEntry {key : String} {value : Value} {entries : List (String × Value)}
    (h : entries.Pairwise fun a b => a.1 < b.1) :
    (insertEntry key value entries).Pairwise fun a b => a.1 < b.1 := by
  induction entries with
  | nil => simp [insertEntry]
  | cons head entries ih =>
    obtain ⟨k, v⟩ := head
    obtain ⟨hhead, htail⟩ := List.pairwise_cons.1 h
    simp only [insertEntry]
    split
    · rename_i hlt
      refine List.pairwise_cons.2 ⟨fun e he => ?_, h⟩
      rcases List.mem_cons.1 he with rfl | he
      · exact hlt
      · exact String.lt_trans hlt (hhead e he)
    · split
      · rename_i heq
        subst heq
        exact List.pairwise_cons.2 ⟨hhead, htail⟩
      · rename_i hnlt hne
        have hlt : k < key := Decidable.byContradiction fun h =>
          hne (String.le_antisymm (String.not_lt.1 h) (String.not_lt.1 hnlt))
        refine List.pairwise_cons.2 ⟨fun e he => ?_, ih htail⟩
        rcases mem_insertEntry he with rfl | he
        · exact hlt
        · exact hhead e he

/-- An insertion changes what is found for its own key alone. -/
theorem lookup_insertEntry (key key' : String) (value : Value) (entries : List (String × Value)) :
    (insertEntry key value entries).lookup key' =
      if key' = key then some value else entries.lookup key' := by
  induction entries with
  | nil =>
    by_cases h : key' = key
    · simp [insertEntry, h]
    · simp [insertEntry, List.lookup_cons, beq_eq_false_iff_ne.2 h, h]
  | cons head entries ih =>
    obtain ⟨k, v⟩ := head
    simp only [insertEntry]
    split
    · by_cases h : key' = key
      · simp [h]
      · simp [List.lookup_cons, beq_eq_false_iff_ne.2 h, h]
    · split
      · rename_i heq
        subst heq
        by_cases h : key' = key
        · simp [h]
        · simp [List.lookup_cons, beq_eq_false_iff_ne.2 h, h]
      · rename_i hne
        by_cases h : key' = k
        · have : key' ≠ key := fun he => hne (he ▸ h)
          simp [h, (h ▸ this : k ≠ key)]
        · simp only [List.lookup_cons, beq_eq_false_iff_ne.2 h, ih]

/-- Gives a key a value, in place of the one it had. -/
def insert (b : Bindings) (key : String) (value : Value) : Bindings :=
  ⟨insertEntry key value b.entries, ascending_insertEntry b.ascending⟩

/-- Without bindings no key has a value. -/
@[simp] theorem get?_empty (key : String) : empty.get? key = none := rfl

/-- **An insertion** gives its key the value and leaves all other keys as they were. -/
@[simp] theorem get?_insert (b : Bindings) (key key' : String) (value : Value) :
    (b.insert key value).get? key' = if key' = key then some value else b.get? key' :=
  lookup_insertEntry key key' value b.entries

/-- The bindings of a list of entries, where a later entry wins over an earlier one. -/
def ofList (entries : List (String × Value)) : Bindings :=
  entries.foldl (fun b e => b.insert e.1 e.2) empty

end Bindings

end Utterance
