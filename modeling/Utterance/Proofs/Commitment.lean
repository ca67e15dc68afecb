import Utterance.Proofs.Extraction

set_option autoImplicit false

/-!
# Cutting without a way back

A cut never takes a segment back: a time slot has the longest time phrase, a greedy slot the
shortest run, whatever that leaves for the slots after it. Some decomposition may be missed in this
way, but along many rows of slots none is. It is enough that greedy slots stand at the end of the
row, and that after a time slot there comes nothing that could go on with the time phrase.

## Main definitions

* `Utterance.Slot.Admits`: the segments that a slot admits, the longest or shortest or not.
* `Utterance.EndsGreedy`: a greedy slot is among the last two.
* `Utterance.Decomposition`: some way to take the words apart along a row of slots.
* `Utterance.Commits`: the rows of slots along which no way back is needed.

## Main results

* `Utterance.Segmentation.decomposition`: the segmentation is a decomposition.
* `Utterance.Decomposition.exists_segmentation`: where there is a decomposition, there is the
  segmentation.
* `Utterance.Grammar.extract_iff_decomposition`: a grammar answers if there is any decomposition.
-/

namespace Utterance

open Calendar Text

/-! ## Decompositions -/

/-- The segments that a slot admits: the words of a fixed phrase, any time phrase, any words for a
last greedy slot and some words for a greedy slot with a successor. -/
def Slot.Admits (slot : Slot) (later : List Slot) (_words segment : List String) : Prop :=
  match slot with
  | .fixed phrase => segment = phrase
  | .greedy _ => later ≠ [] → segment ≠ []
  | .time _ => segment ≠ [] ∧ ∃ t, RelativeTime.ofWords? segment = some t

/-- One of the last two slots is greedy, so no word may be left over. -/
def EndsGreedy (slots : List Slot) : Prop :=
  ∃ slot ∈ slots.drop (slots.length - 2), slot.isGreedy = true

/-- Words taken apart along a row of slots, each slot with a segment that it admits. -/
structure Decomposition (slots : List Slot) (words : List String) (segments : List (List String))
    (rest : List String) : Prop where
  /-- The words are the segments and the rest. -/
  divides : Divides Slot.Admits slots words segments rest
  /-- A greedy slot at the end leaves no word over. -/
  rest_eq_nil : EndsGreedy slots → rest = []

section Decomposition

variable {slot next : Slot} {slots later : List Slot} {words segment rest : List String}
  {segments : List (List String)} {key : String}

/-- A greedy slot has a key. -/
lemma Slot.exists_eq_greedy (h : slot.isGreedy = true) : ∃ key, slot = .greedy key := by
  cases slot with
  | greedy key => exact ⟨key, rfl⟩
  | fixed phrase => simp [isGreedy] at h
  | time key => simp [isGreedy] at h

/-- A row that ends greedily still does with a slot more in front. -/
lemma EndsGreedy.cons (h : EndsGreedy slots) : EndsGreedy (slot :: slots) := by
  obtain ⟨last, hmem, hgreedy⟩ := h
  refine ⟨last, ?_, hgreedy⟩
  rcases slots with _ | ⟨a, _ | ⟨b, slots⟩⟩
  · simp at hmem
  · exact List.mem_cons_of_mem _ hmem
  · exact hmem

/-- Only the last two slots count. -/
lemma endsGreedy_cons_cons_cons {a b : Slot} :
    EndsGreedy (slot :: a :: b :: slots) ↔ EndsGreedy (a :: b :: slots) :=
  Iff.rfl

/-- A greedy slot with one slot behind it at most makes a row end greedily. -/
lemma endsGreedy_greedy_cons (h : later.length ≤ 1) : EndsGreedy (.greedy key :: later) := by
  refine ⟨.greedy key, ?_, rfl⟩
  rw [List.length_cons, show later.length + 1 - 2 = 0 by omega]
  exact List.mem_cons_self

/-- The segment that a slot asks for is one that it admits. -/
lemma Slot.Fits.admits (h : slot.Fits later words segment) : slot.Admits later words segment := by
  cases slot with
  | fixed phrase => exact h.1
  | time key => exact ⟨IsLongestRun.ne_nil h, IsLongestRun.holds h⟩
  | greedy key =>
    intro hlater
    cases later with
    | nil => contradiction
    | cons next later => exact IsShortestRun.ne_nil h

/-- A last slot after a greedy one leaves no word over. -/
lemma rest_eq_nil_of_segmentation_greedy_cons (hnext : next.isGreedy = false)
    (hphrase : next.isEmptyPhrase = false)
    (h : Segmentation [.greedy key, next] words segments rest) : rest = [] := by
  obtain ⟨split, _, -, hsplit, htail⟩ := (segmentation_greedy_iff hnext hphrase).1 h
  obtain ⟨-, rfl⟩ := Divides.nil_iff.1 htail
  obtain ⟨-, hlast, -⟩ := (Slot.splitBefore_eq_some_iff hnext hphrase).1 hsplit
  exact List.self_eq_append_right.1 (hlast.2 rfl)

/-- The segmentation leaves no word over behind a greedy slot at the end of the row. -/
lemma Segmentation.rest_eq_nil (hslots : Separable slots)
    (h : Segmentation slots words segments rest) (hends : EndsGreedy slots) : rest = [] := by
  induction slots generalizing words segments with
  | nil =>
    obtain ⟨last, hmem, -⟩ := hends
    exact absurd hmem List.not_mem_nil
  | cons slot slots ih =>
    obtain ⟨_, after, segments', -, -, -, htail⟩ := Divides.cons_iff.1 h
    by_cases hlater : EndsGreedy slots
    · exact ih hslots.tail htail hlater
    -- the slots after the first are none or one, and not greedy
    rcases slots with _ | ⟨next, _ | ⟨b, slots⟩⟩
    · obtain ⟨last, hmem, hgreedy⟩ := hends
      obtain rfl := List.mem_singleton.1 hmem
      obtain ⟨key, rfl⟩ := Slot.exists_eq_greedy hgreedy
      exact (segmentation_singleton_greedy_iff.1 h).2
    · obtain ⟨last, hmem, hgreedy⟩ := hends
      obtain rfl | hmem := List.mem_cons.1 hmem
      · obtain ⟨key, rfl⟩ := Slot.exists_eq_greedy hgreedy
        exact rest_eq_nil_of_segmentation_greedy_cons hslots.isGreedy_eq_false
          (hslots.isEmptyPhrase_eq_false (by simp)) h
      · exact absurd ⟨last, hmem, hgreedy⟩ hlater
    · exact absurd (endsGreedy_cons_cons_cons.1 hends) hlater

/-- **The segmentation is a decomposition**, along every row of slots. -/
theorem Segmentation.decomposition (hslots : Separable slots)
    (h : Segmentation slots words segments rest) : Decomposition slots words segments rest :=
  ⟨h.imp Slot.Fits.admits, h.rest_eq_nil hslots⟩

end Decomposition

/-! ## Rows of slots that need no way back -/

/-- A slot spoils no decomposition for the slots after it. A greedy slot has one slot after it at
most. After a time slot there may come a last greedy slot, or a fixed phrase that could not go on
with the time phrase. -/
def Slot.CommitsBefore : Slot → (later : List Slot) → Prop
  | .fixed _, _ => True
  | .greedy _, later => later.length ≤ 1
  | .time _, [] => True
  | .time _, .greedy _ :: later => later = []
  | .time _, .fixed phrase :: _ => phrase.head? ≠ some "at"
  | .time _, .time _ :: _ => False

/-- Along the row of slots no way back is needed. -/
def Commits : List Slot → Prop
  | [] => True
  | slot :: later => slot.CommitsBefore later ∧ Commits later

instance : ∀ slot later, Decidable (Slot.CommitsBefore slot later)
  | .fixed _, _ => isTrue trivial
  | .greedy _, later => inferInstanceAs (Decidable (later.length ≤ 1))
  | .time _, [] => isTrue trivial
  | .time _, .greedy _ :: later => inferInstanceAs (Decidable (later = []))
  | .time _, .fixed phrase :: _ => inferInstanceAs (Decidable (phrase.head? ≠ some "at"))
  | .time _, .time _ :: _ => isFalse id

instance decidableCommits : ∀ slots, Decidable (Commits slots)
  | [] => isTrue trivial
  | slot :: later =>
    have := decidableCommits later
    inferInstanceAs (Decidable (slot.CommitsBefore later ∧ Commits later))

section Commits

variable {slot next : Slot} {slots later : List Slot} {words segment rest : List String}
  {segments : List (List String)} {key : String} {t : RelativeTime}

/-- A time slot has a segment wherever some time phrase begins. -/
lemma exists_takes_of_ofWords? (key : String) (words : List String) (hne : segment ≠ [])
    (ht : RelativeTime.ofWords? segment = some t) :
    ∃ taken left, (Slot.time key).Takes (segment ++ words) taken ∧
      taken ++ left = segment ++ words := by
  have hcomplete : (Slot.time key).isComplete segment = true := by
    rw [Slot.isComplete, ht, Option.isSome_some]
  cases hsegment : (Slot.time key).segment? (segment ++ words) with
  | none =>
    have := Slot.isComplete_eq_false_of_segment? hsegment hne (List.prefix_append _ _)
    rw [hcomplete] at this
    cases this
  | some found =>
    exact ⟨found.1, found.2, (Slot.segment?_eq_some_iff rfl).1 hsegment⟩

/-- A time slot before slots that are content with anything has its segment wherever some time
phrase begins. -/
lemma exists_segmentation_time_cons (hne : segment ≠ [])
    (ht : RelativeTime.ofWords? segment = some t)
    (hlater : ∀ left, ∃ segments rest, Segmentation later left segments rest) :
    ∃ segments rest, Segmentation (.time key :: later) (segment ++ words) segments rest := by
  obtain ⟨taken, left, htakes, hwords⟩ := exists_takes_of_ofWords? key words hne ht
  obtain ⟨segments, rest, hleft⟩ := hlater left
  rw [← hwords] at htakes ⊢
  exact ⟨_, _, .cons htakes hleft⟩

/-- A time phrase is the longest one unless the word after it is `at`. -/
lemma takes_of_head?_ne_at (key : String) (hhead : ∀ w ∈ words.head?, ' ' ∉ w.toList ∧ w ≠ "at")
    (hne : segment ≠ []) (ht : RelativeTime.ofWords? segment = some t) :
    (Slot.time key).Takes (segment ++ words) segment := by
  refine .append hne ⟨t, ht⟩ ?_
  rintro more hmore hbegins ⟨t', ht'⟩
  obtain ⟨w, more, rfl⟩ := List.exists_cons_of_ne_nil hmore
  obtain ⟨words, rfl⟩ := hbegins
  obtain ⟨hspace, hat⟩ := hhead w rfl
  exact hat (RelativeTime.eq_at_of_append hspace (by rw [ht, Option.isSome_some])
    (by rw [ht', Option.isSome_some]))

/-- Words that begin with the segment of a fixed phrase do not begin with `at`, unless the phrase
does. -/
lemma head?_ne_at_of_divides {phrase : List String} (hphrase : phrase ≠ [])
    (hat : phrase.head? ≠ some "at") (hwords : ∀ w ∈ words, ' ' ∉ w.toList)
    (h : Divides Slot.Admits (.fixed phrase :: later) words segments rest) :
    ∀ w ∈ words.head?, ' ' ∉ w.toList ∧ w ≠ "at" := by
  intro w hw
  refine ⟨hwords w (List.mem_of_mem_head? hw), ?_⟩
  rintro rfl
  obtain ⟨found, after, _, -, rfl, hfound, -⟩ := Divides.cons_iff.1 h
  rw [show found = phrase from hfound, List.head?_append,
    Option.or_of_isSome (by simpa using hphrase)] at hw
  exact hat hw

/-- A slot that is not greedy takes a whole segment that it admits, if nothing comes after. -/
lemma takes_self_of_admits (hslot : next.isGreedy = false) (h : next.Admits later words segment) :
    next.Takes segment segment := by
  cases next with
  | greedy key => simp [Slot.isGreedy] at hslot
  | fixed phrase => exact ⟨h, h ▸ List.prefix_rfl⟩
  | time key => exact .self h.1 h.2

/-- A greedy slot and a last slot after it have their segments wherever they admit some. -/
lemma exists_segmentation_greedy_cons (key : String) (hnext : next.isGreedy = false)
    (hphrase : next.isEmptyPhrase = false) {run : List String} (hrun : run ≠ [])
    (h : next.Admits [] words segment) :
    ∃ segments rest, Segmentation [.greedy key, next] (run ++ segment) segments rest := by
  obtain ⟨found, hfound⟩ := Slot.exists_splitBefore hnext true (run ++ segment)
  cases found with
  | none =>
    have hnone := (Slot.splitBefore_eq_none_iff hnext hphrase).1 hfound run segment segment hrun rfl
    exact absurd ⟨takes_self_of_admits hnext h, fun _ => rfl⟩ hnone
  | some split =>
    exact ⟨_, _, (segmentation_greedy_iff hnext hphrase).2 ⟨split, _, rfl, hfound, .nil _⟩⟩

/-- **Where there is a decomposition, there is the segmentation**, along every row of slots that
needs no way back.

**Proof sketch.** Induction on the row. A fixed phrase has one segment only. A time slot before a
fixed phrase cannot go on past its segment, since a time phrase goes on with `at` alone; a time slot
at the end or before a last greedy slot may take a longer segment, which leaves less to slots that
are content with anything. A greedy slot with a last slot after it has a shorter run at best, since
all words have to be used up. -/
theorem Decomposition.exists_segmentation (hslots : Separable slots) (hcommits : Commits slots)
    (hwords : ∀ w ∈ words, ' ' ∉ w.toList) (h : Decomposition slots words segments rest) :
    ∃ segments rest, Segmentation slots words segments rest := by
  induction slots generalizing words segments with
  | nil => exact ⟨[], words, .nil words⟩
  | cons slot slots ih =>
    obtain ⟨hdivides, hrest⟩ := h
    obtain ⟨segment, after, segments', rfl, rfl, hadmits, htail⟩ := Divides.cons_iff.1 hdivides
    have hlater : ∀ w ∈ after, ' ' ∉ w.toList := fun w hw =>
      hwords w (List.mem_append_right _ hw)
    have hafter : ∃ segments rest, Segmentation slots after segments rest :=
      ih hslots.tail hcommits.2 hlater ⟨htail, fun hends => hrest hends.cons⟩
    obtain ⟨segments₁, rest₁, hafter⟩ := hafter
    cases slot with
    | fixed phrase =>
      exact ⟨_, _, .cons ⟨hadmits, hadmits ▸ List.prefix_append _ _⟩ hafter⟩
    | greedy key =>
      cases slots with
      | nil => exact ⟨_, _, segmentation_singleton rfl⟩
      | cons next slots =>
        obtain rfl : slots = [] := List.length_eq_zero_iff.1 (Nat.le_zero.1
          (Nat.le_of_succ_le_succ hcommits.1))
        obtain rfl : rest = [] := hrest (endsGreedy_greedy_cons hcommits.1)
        -- no word is left over, so the segment of the last slot is all that follows the run
        obtain ⟨last, _, _, -, rfl, hlast, hnil⟩ := Divides.cons_iff.1 htail
        obtain ⟨-, rfl⟩ := Divides.nil_iff.1 hnil
        rw [List.append_nil]
        exact exists_segmentation_greedy_cons key hslots.isGreedy_eq_false
          (hslots.isEmptyPhrase_eq_false (by simp)) (hadmits (by simp)) hlast
    | time key =>
      obtain ⟨hne, t, ht⟩ := hadmits
      cases slots with
      | nil => exact exists_segmentation_time_cons hne ht fun left => ⟨[], left, .nil left⟩
      | cons next slots =>
        cases next with
        | greedy key' =>
          obtain rfl : slots = [] := hcommits.1
          exact exists_segmentation_time_cons hne ht fun left =>
            ⟨[left], [], segmentation_singleton rfl⟩
        | time key' => exact absurd hcommits.1 id
        | fixed phrase =>
          have hphrase : phrase ≠ [] := hslots.phrase_ne_nil phrase (by simp)
          have hhead := head?_ne_at_of_divides hphrase hcommits.1 hlater htail
          exact ⟨_, _, .cons (takes_of_head?_ne_at key hhead hne ht) hafter⟩

end Commits

/-! ## The answers of a grammar -/

namespace Grammar

/-- **Giving up the way back loses no match.** A grammar whose slots need no way back has an extract
from a sentence exactly when the words of the sentence have any decomposition along the slots.

**Proof sketch.** The extract goes with the segmentation (`extract_of_segmentation`). That is a
decomposition (`Segmentation.decomposition`), and there is one as soon as there is a decomposition
(`Decomposition.exists_segmentation`); the words of a sentence hold no spaces. -/
theorem extract_iff_decomposition (grammar : Grammar) (hcommits : Commits grammar.slots)
    (sentence : String) {now : Timestamp} (hnow : now.HasRoom) :
    (∃ e, grammar.extract (words sentence) now = .ok (some e)) ↔
      ∃ segments rest, Decomposition grammar.slots (words sentence) segments rest := by
  have hslots := grammar.wellFormed.separable
  constructor
  · rintro ⟨e, he⟩
    obtain ⟨segments, rest, h⟩ := exists_segmentation_of_extract he
    exact ⟨segments, rest, h.decomposition hslots⟩
  · rintro ⟨segments, rest, h⟩
    obtain ⟨segments, rest, h⟩ :=
      h.exists_segmentation hslots hcommits fun _ => space_notMem_of_mem_words
    obtain ⟨e, he, -⟩ := extract_of_segmentation hnow h
    exact ⟨e, he⟩

/-- A reminder that begins with the longer of two time phrases. -/
theorem decomposition_timeFirst_buy_milk : Commits timeFirst.slots ∧
    Timestamp.lastWithRoom.HasRoom ∧ ∃ segments rest, Decomposition timeFirst.slots
      (words "tomorrow at 9am remind me to buy milk") segments rest := by
  have hcommits : Commits timeFirst.slots := by decide
  have hroom := Timestamp.hasRoom_lastWithRoom
  refine ⟨hcommits, hroom, ?_⟩
  exact (extract_iff_decomposition timeFirst hcommits _ hroom).1 ⟨_, rfl⟩

end Grammar

end Utterance
