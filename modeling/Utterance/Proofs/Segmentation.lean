import Utterance.Grammar
import Utterance.Grammar.Cut
import Utterance.Proofs.Splits

set_option autoImplicit false

/-!
# Segmentations of a sentence

A sentence has the shape of a row of slots when its words are one segment for each slot, in the
order of the slots, and a rest. Which segments are meant is said for each slot by itself: a slot
asks for its own segment among the words from there on, and a greedy slot with a successor for the
shortest run that the successor can follow. Cutting the sentence slot after slot finds this
division, and there is no other.

## Main definitions

* `Utterance.Separable`: the rows of slots along which a cut always goes on or stops.
* `Utterance.Divides`: words as one segment for each slot and a rest.
* `Utterance.Slot.Fits`, `Utterance.Segmentation`: the division that a row of slots asks for.

## Main results

* `Utterance.Divides.flatten_append`: the segments and the rest are the words.
* `Utterance.Segmentation.unique`: words have one segmentation.
* `Utterance.cut_spec`: a cut follows the segmentation, or stops where there is none.
-/

namespace Utterance

/-! ## Rows of slots that can be told apart -/

/-- A row of slots along which a cut always goes on or stops: no greedy slot follows another, and
every fixed phrase has words. -/
structure Separable (slots : List Slot) : Prop where
  /-- No greedy slot follows another. -/
  not_adjacent : ∀ front back first second,
    slots ≠ front ++ Slot.greedy first :: Slot.greedy second :: back
  /-- Every fixed phrase has words. -/
  phrase_ne_nil : ∀ phrase, Slot.fixed phrase ∈ slots → phrase ≠ []

/-- The slots of a well-formed row can be told apart. -/
lemma WellFormed.separable {slots : List Slot} (h : WellFormed slots) : Separable slots :=
  ⟨h.not_adjacent, h.phrase_ne_nil⟩

namespace Separable

variable {slot next : Slot} {slots : List Slot} {key : String}

/-- Slots that can be told apart can be told apart without the first of them. -/
lemma tail (h : Separable (slot :: slots)) : Separable slots where
  not_adjacent front back first second heq :=
    h.not_adjacent (slot :: front) back first second (by rw [heq, List.cons_append])
  phrase_ne_nil phrase hmem := h.phrase_ne_nil phrase (List.mem_cons_of_mem _ hmem)

/-- No slot of such a row is a phrase without words. -/
lemma isEmptyPhrase_eq_false (h : Separable slots) (hmem : slot ∈ slots) :
    slot.isEmptyPhrase = false := by
  cases slot with
  | fixed phrase => simpa [Slot.isEmptyPhrase] using h.phrase_ne_nil phrase hmem
  | greedy key => rfl
  | time key => rfl

/-- The slot behind a greedy one is not greedy. -/
lemma isGreedy_eq_false (h : Separable (.greedy key :: next :: slots)) : next.isGreedy = false := by
  cases next with
  | fixed phrase => rfl
  | greedy second => exact absurd rfl (h.not_adjacent [] slots key second)
  | time key => rfl

end Separable

/-! ## Divisions -/

/-- The words are one segment for each slot of a row, in the order of the slots, and a rest. What
`fits` asks of a segment may depend on its slot, on the slots after that, and on the words from the
segment on. -/
inductive Divides (fits : Slot → List Slot → List String → List String → Prop) :
    List Slot → (words : List String) → (segments : List (List String)) → (rest : List String) →
      Prop
  /-- Behind the last slot all words are left over. -/
  | nil (rest : List String) : Divides fits [] rest [] rest
  /-- The segment of the first slot stands in front of those of the others. -/
  | cons {slot : Slot} {slots : List Slot} {segment words rest : List String}
      {segments : List (List String)} (hfits : fits slot slots (segment ++ words) segment)
      (htail : Divides fits slots words segments rest) :
      Divides fits (slot :: slots) (segment ++ words) (segment :: segments) rest

namespace Divides

variable {fits : Slot → List Slot → List String → List String → Prop} {slot : Slot}
  {slots : List Slot} {words rest : List String} {segments : List (List String)}

/-- Nothing is lost: the segments and the rest are the words. -/
theorem flatten_append (h : Divides fits slots words segments rest) :
    segments.flatten ++ rest = words := by
  induction h with
  | nil => rfl
  | cons _ _ ih => rw [List.flatten_cons, List.append_assoc, ih]

/-- Every slot has its segment. -/
theorem length_eq (h : Divides fits slots words segments rest) :
    segments.length = slots.length := by
  induction h with
  | nil => rfl
  | cons _ _ ih => rw [List.length_cons, List.length_cons, ih]

/-- What is asked of the segments may be weakened. -/
theorem imp {fits' : Slot → List Slot → List String → List String → Prop}
    (himp : ∀ {slot later words segment}, fits slot later words segment →
      fits' slot later words segment)
    (h : Divides fits slots words segments rest) : Divides fits' slots words segments rest := by
  induction h with
  | nil rest => exact .nil rest
  | cons hfits _ ih => exact .cons (himp hfits) ih

/-- Without slots all words are left over. -/
lemma nil_iff : Divides fits [] words segments rest ↔ segments = [] ∧ rest = words := by
  constructor
  · rintro ⟨⟩
    exact ⟨rfl, rfl⟩
  · rintro ⟨rfl, rfl⟩
    exact .nil rest

/-- The first slot has the first segment, and the other slots divide the words behind it. -/
lemma cons_iff : Divides fits (slot :: slots) words segments rest ↔
    ∃ segment after segments', segments = segment :: segments' ∧ segment ++ after = words ∧
      fits slot slots words segment ∧ Divides fits slots after segments' rest := by
  constructor
  · rintro ⟨⟩
    exact ⟨_, _, _, rfl, rfl, ‹_›, ‹_›⟩
  · rintro ⟨segment, after, segments', rfl, rfl, hfits, htail⟩
    exact .cons hfits htail

/-- What is asked of the segment of a slot has been asked with some words from there on. -/
lemma fits_of_mem_zip {segment : List String} (h : Divides fits slots words segments rest)
    (hmem : (slot, segment) ∈ slots.zip segments) :
    ∃ later words', fits slot later words' segment := by
  induction h with
  | nil => simp at hmem
  | cons hfits _ ih =>
    rw [List.zip_cons_cons, List.mem_cons] at hmem
    obtain ⟨rfl, rfl⟩ | hmem := hmem
    · exact ⟨_, _, hfits⟩
    · exact ih hmem

/-- When the segments are known from the slots, what is left is to ask for each of them. -/
lemma map_iff {g : Slot → List String} : Divides fits slots words (slots.map g) rest ↔
    words = slots.flatMap g ++ rest ∧ ∀ front slot later, slots = front ++ slot :: later →
      fits slot later (g slot ++ (later.flatMap g ++ rest)) (g slot) := by
  induction slots generalizing words with
  | nil => simp [nil_iff, eq_comm]
  | cons head slots ih =>
    rw [cons_iff]
    constructor
    · rintro ⟨segment, after, segments', heq, rfl, hfits, htail⟩
      obtain ⟨rfl, rfl⟩ := List.cons.inj heq
      obtain ⟨rfl, hlater⟩ := ih.1 htail
      refine ⟨by rw [List.flatMap_cons, List.append_assoc], fun front slot later hslots => ?_⟩
      cases front with
      | nil =>
        obtain ⟨rfl, rfl⟩ := List.cons.inj hslots
        exact hfits
      | cons first front => exact hlater front slot later (List.cons.inj hslots).2
    · rintro ⟨rfl, hfits⟩
      refine ⟨_, slots.flatMap g ++ rest, _, rfl, ?_, ?_, ih.2 ⟨rfl, ?_⟩⟩
      · rw [List.flatMap_cons, List.append_assoc]
      · rw [List.flatMap_cons, List.append_assoc]
        exact hfits [] head slots rfl
      · exact fun front slot later hslots =>
          hfits (head :: front) slot later (congrArg (head :: ·) hslots)

end Divides

/-! ## Segmentations -/

/-- What a slot asks of its segment. A greedy slot with a successor asks for the shortest run that
the successor can follow; any other slot for its segment among `words`, the words from there on. -/
def Slot.Fits (slot : Slot) (later : List Slot) (words segment : List String) : Prop :=
  match slot, later with
  | .greedy _, next :: later => next.IsShortestRun later.isEmpty words segment
  | slot, _ => slot.Takes words segment

/-- The division of words that a row of slots asks for. -/
abbrev Segmentation := Divides Slot.Fits

namespace Slot

variable {slot : Slot} {later : List Slot} {words segment : List String}

/-- Only before a successor does a greedy slot not take all words. -/
lemma fits_iff_takes (h : slot.isGreedy = false ∨ later = []) :
    slot.Fits later words segment ↔ slot.Takes words segment := by
  cases slot with
  | fixed phrase => rfl
  | time key => rfl
  | greedy key =>
    obtain h | rfl := h
    · simp [isGreedy] at h
    · rfl

/-- **A slot asks for one segment**, given the slots behind it and the words. -/
lemma Fits.unique {segment' : List String} (h : slot.Fits later words segment)
    (h' : slot.Fits later words segment') : segment = segment' := by
  by_cases hslot : slot.isGreedy = false ∨ later = []
  · exact ((fits_iff_takes hslot).1 h).unique ((fits_iff_takes hslot).1 h')
  · obtain ⟨hgreedy, hlater⟩ := not_or.1 hslot
    cases slot with
    | fixed phrase => exact absurd rfl hgreedy
    | time key => exact absurd rfl hgreedy
    | greedy key =>
      cases later with
      | nil => exact absurd rfl hlater
      | cons next later => exact IsShortestRun.unique h h'

end Slot

/-- Words have one segmentation. -/
theorem Segmentation.unique {slots : List Slot} {words rest rest' : List String}
    {segments segments' : List (List String)} (h : Segmentation slots words segments rest)
    (h' : Segmentation slots words segments' rest') : segments = segments' ∧ rest = rest' := by
  induction h generalizing segments' with
  | nil rest =>
    obtain ⟨rfl, rfl⟩ := Divides.nil_iff.1 h'
    exact ⟨rfl, rfl⟩
  | cons hfits _ ih =>
    obtain ⟨segment', after, segments', rfl, hwords, hfits', htail⟩ := Divides.cons_iff.1 h'
    obtain rfl := hfits.unique hfits'
    obtain rfl := List.append_cancel_left hwords
    obtain ⟨rfl, rfl⟩ := ih htail
    exact ⟨rfl, rfl⟩

/-! ## Cutting -/

section Cut

variable {slot next : Slot} {slots : List Slot} {words segment rest : List String}
  {segments : List (List String)} {key : String}

/-- Segments in front of a cut come first. -/
@[simp] lemma Cut.segments_after (front : List Segment) (c : Cut) :
    (c.after front).segments = front ++ c.segments := rfl

/-- Segments in front of a cut do not change how it ends. -/
@[simp] lemma Cut.ending_after (front : List Segment) (c : Cut) :
    (c.after front).ending = c.ending := rfl

/-- A cut takes a slot alone when it is not greedy or has no successor. -/
lemma isGreedy_eq_false_or_eq_nil
    (h : ∀ key next slots', slot = .greedy key → slots = next :: slots' → False) :
    slot.isGreedy = false ∨ slots = [] := by
  cases slot with
  | fixed phrase => exact .inl rfl
  | time key => exact .inl rfl
  | greedy key =>
    cases slots with
    | nil => exact .inr rfl
    | cons next slots' => exact absurd rfl (h key next slots' rfl)

/-- One step of a segmentation: a slot that is not a greedy slot with a successor has the segment
that it takes alone. -/
lemma segmentation_cons_iff (h : slot.isGreedy = false ∨ slots = [])
    (hphrase : slot.isEmptyPhrase = false) :
    Segmentation (slot :: slots) words segments rest ↔
      ∃ taken left segments', segments = taken :: segments' ∧
        slot.segment? words = some (taken, left) ∧ Segmentation slots left segments' rest := by
  simp only [Divides.cons_iff, Slot.fits_iff_takes h, Slot.segment?_eq_some_iff hphrase]
  constructor
  · rintro ⟨taken, left, segments', rfl, hwords, htakes, htail⟩
    exact ⟨taken, left, segments', rfl, ⟨htakes, hwords⟩, htail⟩
  · rintro ⟨taken, left, segments', rfl, ⟨htakes, hwords⟩, htail⟩
    exact ⟨taken, left, segments', rfl, hwords, htakes, htail⟩

/-- A last slot that takes all words leaves none over. -/
lemma segmentation_singleton (h : slot.Takes words words) :
    Segmentation [slot] words [words] [] := by
  have hfits : slot.Fits [] (words ++ []) words := by
    rw [List.append_nil]
    exact (Slot.fits_iff_takes (.inr rfl)).2 h
  simpa only [List.append_nil] using Divides.cons hfits (.nil [])

/-- A last greedy slot has all words for its segment. -/
lemma segmentation_singleton_greedy_iff :
    Segmentation [.greedy key] words segments rest ↔ segments = [words] ∧ rest = [] := by
  have hself : Segmentation [.greedy key] words [words] [] := segmentation_singleton rfl
  constructor
  · intro h
    exact h.unique hself
  · rintro ⟨rfl, rfl⟩
    exact hself

/-- One step of a segmentation: a greedy slot and its successor have the run and the segment of the
split before the successor. -/
lemma segmentation_greedy_iff (hslot : next.isGreedy = false)
    (hphrase : next.isEmptyPhrase = false) :
    Segmentation (.greedy key :: next :: slots) words segments rest ↔
      ∃ split segments', segments = split.run :: split.segment :: segments' ∧
        next.splitBefore slots.isEmpty words = .ok (some split) ∧
        Segmentation slots split.rest segments' rest := by
  simp only [Divides.cons_iff, Slot.fits_iff_takes (Or.inl hslot),
    Slot.splitBefore_eq_some_iff hslot hphrase]
  constructor
  · rintro ⟨run, after, _, rfl, hwords, hrun, taken, left, segments', rfl, rfl, htakes, htail⟩
    refine ⟨⟨run, taken, left⟩, segments', rfl, ⟨hrun, ⟨htakes, ?_⟩, hwords⟩, htail⟩
    -- the segment that ends the shortest run is the one that the successor takes
    obtain ⟨after', taken', hwords', htakes', hlast⟩ := Slot.IsShortestRun.follows hrun
    obtain rfl := List.append_cancel_left (hwords'.trans hwords.symm)
    obtain rfl := htakes'.unique htakes
    exact hlast
  · rintro ⟨split, segments', rfl, ⟨hrun, hsegment, hwords⟩, htail⟩
    exact ⟨_, _, _, rfl, hwords, hrun, _, _, _, rfl, rfl, hsegment.1, htail⟩

/-- **A cut follows the segmentation.** If the words have a segmentation, the cut consists of its
segments and reaches the end of the row; otherwise it stops.

**Proof sketch.** Induction on the cut. Each step of the cut is a step of the segmentation: a
single slot takes its own segment, a greedy slot with a successor is split off together with it. -/
theorem cut_spec (hslots : Separable slots) (words : List String) :
    (∃ segments rest, Segmentation slots words segments rest ∧
      cut slots words = ⟨slots.zipWith Segment.mk segments, .finished⟩) ∨
    ((cut slots words).ending = .stopped ∧
      ∀ segments rest, ¬ Segmentation slots words segments rest) := by
  fun_induction cut slots words with
  | case1 words => exact .inl ⟨[], words, .nil words, rfl⟩
  | case2 key next slots words failure hsplit =>
    obtain ⟨found, hfound⟩ := Slot.exists_splitBefore hslots.isGreedy_eq_false slots.isEmpty words
    rw [hfound] at hsplit
    cases hsplit
  | case3 key next slots words hsplit =>
    refine .inr ⟨rfl, fun segments rest h => ?_⟩
    have hphrase : next.isEmptyPhrase = false := hslots.isEmptyPhrase_eq_false (by simp)
    obtain ⟨split, _, -, hsome, -⟩ :=
      (segmentation_greedy_iff hslots.isGreedy_eq_false hphrase).1 h
    rw [hsplit] at hsome
    cases hsome
  | case4 key next slots words split hsplit ih =>
    have hphrase : next.isEmptyPhrase = false := hslots.isEmptyPhrase_eq_false (by simp)
    have hnext := hslots.isGreedy_eq_false
    obtain ⟨segments, rest, hsegments, hcut⟩ | ⟨hending, hnone⟩ := ih hslots.tail.tail
    · refine .inl ⟨split.run :: split.segment :: segments, rest, ?_, by rw [hcut]; rfl⟩
      exact (segmentation_greedy_iff hnext hphrase).2 ⟨split, segments, rfl, hsplit, hsegments⟩
    · refine .inr ⟨hending, fun segments rest h => ?_⟩
      obtain ⟨split', segments', -, hsplit', htail⟩ :=
        (segmentation_greedy_iff hnext hphrase).1 h
      obtain rfl : split = split' := by simpa [hsplit] using hsplit'
      exact hnone segments' rest htail
  | case5 slot slots words hslot hsegment =>
    refine .inr ⟨rfl, fun segments rest h => ?_⟩
    have hphrase : slot.isEmptyPhrase = false := hslots.isEmptyPhrase_eq_false (by simp)
    obtain ⟨_, _, _, -, hsome, -⟩ :=
      (segmentation_cons_iff (isGreedy_eq_false_or_eq_nil hslot) hphrase).1 h
    rw [hsegment] at hsome
    cases hsome
  | case6 slot slots words hslot taken left hsegment ih =>
    have hphrase : slot.isEmptyPhrase = false := hslots.isEmptyPhrase_eq_false (by simp)
    obtain ⟨segments, rest, hsegments, hcut⟩ | ⟨hending, hnone⟩ := ih hslots.tail
    · refine .inl ⟨taken :: segments, rest, ?_, by rw [hcut]; rfl⟩
      exact (segmentation_cons_iff (isGreedy_eq_false_or_eq_nil hslot) hphrase).2
        ⟨taken, left, segments, rfl, hsegment, hsegments⟩
    · refine .inr ⟨hending, fun segments rest h => ?_⟩
      obtain ⟨taken', left', segments', -, hsome, htail⟩ :=
        (segmentation_cons_iff (isGreedy_eq_false_or_eq_nil hslot) hphrase).1 h
      rw [hsegment, Option.some.injEq, Prod.mk.injEq] at hsome
      obtain ⟨rfl, rfl⟩ := hsome
      exact hnone segments' rest htail

/-- Cutting finds the segmentation: its segments are those of the cut, slot by slot. -/
theorem cut_of_segmentation (hslots : Separable slots)
    (h : Segmentation slots words segments rest) :
    cut slots words = ⟨slots.zipWith Segment.mk segments, .finished⟩ := by
  obtain ⟨segments', rest', h', hcut⟩ | ⟨-, hnone⟩ := cut_spec hslots words
  · obtain ⟨rfl, rfl⟩ := h.unique h'
    exact hcut
  · exact absurd h (hnone segments rest)

/-- Where words have no segmentation the cut stops before the end of the row. -/
theorem ending_cut_of_not_segmentation (hslots : Separable slots)
    (h : ∀ segments rest, ¬ Segmentation slots words segments rest) :
    (cut slots words).ending = .stopped := by
  obtain ⟨segments, rest, h', -⟩ | ⟨hending, -⟩ := cut_spec hslots words
  · exact absurd h' (h segments rest)
  · exact hending

/-- The words that a cut has taken begin the sentence, however far the cut comes. -/
theorem flatMap_words_cut (slots : List Slot) (words : List String) :
    (cut slots words).segments.flatMap Segment.words <+: words := by
  fun_induction cut slots words with
  | case1 => simp
  | case2 => simp
  | case3 => simp
  | case4 key next slots words split hsplit ih =>
    rw [← Slot.append_of_splitBefore hsplit]
    simpa [List.flatMap_append] using ih
  | case5 => simp
  | case6 slot slots words _ taken left hsegment ih =>
    rw [← Slot.append_of_segment? hsegment]
    simpa [List.flatMap_append] using ih

/-- A cut takes words for slots of the row only. -/
lemma slot_mem_of_mem_cut {slots : List Slot} {words : List String} {segment : Segment}
    (h : segment ∈ (cut slots words).segments) : segment.slot ∈ slots := by
  fun_induction cut slots words with
  | case1 => simp at h
  | case2 => simp at h
  | case3 => simp at h
  | case4 key next slots words split hsplit ih =>
    simp only [Cut.segments_after, List.cons_append, List.nil_append, List.mem_cons] at h ⊢
    obtain rfl | rfl | h := h
    · exact .inl rfl
    · exact .inr (.inl rfl)
    · exact .inr (.inr (ih h))
  | case5 => simp at h
  | case6 slot slots words _ taken left hsegment ih =>
    simp only [Cut.segments_after, List.cons_append, List.nil_append, List.mem_cons] at h ⊢
    obtain rfl | h := h
    · exact .inl rfl
    · exact .inr (ih h)

/-- Every time slot that a cut has reached has taken a time phrase, however far the cut comes. -/
theorem exists_ofWords?_of_mem_cut (hslots : Separable slots)
    (h : ⟨.time key, segment⟩ ∈ (cut slots words).segments) :
    ∃ t, RelativeTime.ofWords? segment = some t := by
  fun_induction cut slots words with
  | case1 => simp at h
  | case2 => simp at h
  | case3 => simp at h
  | case4 key' next slots words split hsplit ih =>
    have hphrase : next.isEmptyPhrase = false := hslots.isEmptyPhrase_eq_false (by simp)
    have htakes :=
      (Slot.isShortestRun_of_splitBefore hslots.isGreedy_eq_false hphrase hsplit).2.1.1
    simp only [Cut.segments_after, List.cons_append, List.nil_append, List.mem_cons,
      Segment.mk.injEq, reduceCtorEq, false_and, false_or] at h
    obtain ⟨rfl, rfl⟩ | h := h
    · exact IsLongestRun.holds htakes
    · exact ih hslots.tail.tail h
  | case5 => simp at h
  | case6 slot slots words _ taken left hsegment ih =>
    have hphrase : slot.isEmptyPhrase = false := hslots.isEmptyPhrase_eq_false (by simp)
    have htakes := Slot.takes_of_segment? hphrase hsegment
    simp only [Cut.segments_after, List.cons_append, List.nil_append, List.mem_cons,
      Segment.mk.injEq] at h
    obtain ⟨rfl, rfl⟩ | h := h
    · exact IsLongestRun.holds htakes
    · exact ih hslots.tail h

end Cut

end Utterance
