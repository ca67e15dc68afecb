import Mathlib.Tactic.Choose
import Utterance.Proofs.Extraction

set_option autoImplicit false

/-!
# What depends on the reference time

A sentence is recognized by its words. The reference time turns the relative times that the words
name into timestamps and has no other effect: with the time left open, there is one answer to the
sentence, and the answer at each time is that answer seen from there. This holds from the grammar
upwards, since neither the choice of a grammar nor that of a command looks at a timestamp.

## Main definitions

* `Utterance.OpenValue`, `Utterance.OpenExtract`: values and extracts with the time left open.
* `Utterance.HasOpenAnswer`: answers that are one open answer, seen from each time.
* `Utterance.Recognition.SameButTimes`: two recognitions that differ in timestamps alone.

## Main results

* `Utterance.Grammar.hasOpenAnswer_extract`, `Utterance.Command.hasOpenAnswer_firstExtract`,
  `Utterance.Repertoire.hasOpenAnswer_bestOf`: the open answers of grammars, of a command, and of
  several commands.
* `Utterance.Repertoire.recognize_sameButTimes`: one sentence recognized at two times.
-/

namespace Utterance

open Calendar Text

/-! ## Values with the time left open -/

/-- A value with the time left open. -/
inductive OpenValue where
  /-- Words, which are the same at all times. -/
  | words (words : List String)
  /-- A relative time. -/
  | time (time : RelativeTime)

/-- The value is the open value, seen from `now`. -/
def OpenValue.IsAt (now : Timestamp) : OpenValue → Value → Prop
  | words ws, value => value = .words ws
  | time t, value => ∃ stamp, t.resolve? now = some stamp ∧ value = .time stamp

/-- An extract with the times left open. -/
structure OpenExtract where
  /-- The rank of the extract. -/
  quality : Quality
  /-- The open value of a key. -/
  entry? : String → Option OpenValue
  /-- The times are those of time phrases. -/
  le_of_entry? : ∀ key t, entry? key = some (.time t) → t.hour ≤ 24 ∧ t.minute ≤ 59

/-- The extract is the open extract, seen from `now`. -/
structure OpenExtract.IsAt (now : Timestamp) (o : OpenExtract) (e : Extract) : Prop where
  /-- The rank does not depend on the time. -/
  quality_eq : e.quality = o.quality
  /-- The keys do not either, and their values are the open ones, seen from there. -/
  rel_get? : ∀ key, Option.Rel (OpenValue.IsAt now) (o.entry? key) (e.get? key)

/-- With eight days to follow, the answers are one open answer, seen from each time. -/
def HasOpenAnswer {α β : Type} (isAt : Timestamp → β → α → Prop)
    (answers : Timestamp → Except RecognitionFailure (Option α)) : Prop :=
  ∃ found : Option β, ∀ now : Timestamp, now.HasRoom →
    ∃ answer, answers now = .ok answer ∧ Option.Rel (isAt now) found answer

/-! ## The open answer of a grammar -/

section Segments

variable {slots : List Slot} {segments : List (List String)} {now : Timestamp} {e : Extract}

/-- The rank of an extract goes with the slots. -/
lemma Extract.Records.quality_eq (h : e.Records slots segments now) :
    e.quality = if slotKeys slots = [] then .noData else .data := by
  have hiff := h.eq_noData_iff
  rw [← slotKeys_eq_nil_iff] at hiff
  cases e with
  | noData => rw [if_pos (hiff.1 rfl)]; rfl
  | data values => rw [if_neg (mt hiff.2 (by simp))]; rfl

/-- A slot of a row has its segment. -/
lemma exists_mem_zip (hlength : segments.length = slots.length) {slot : Slot}
    (hslot : slot ∈ slots) : ∃ segment, (slot, segment) ∈ slots.zip segments := by
  rw [← List.map_fst_zip (Nat.le_of_eq hlength.symm)] at hslot
  obtain ⟨⟨_, segment⟩, hmem, rfl⟩ := List.mem_map.1 hslot
  exact ⟨segment, hmem⟩

/-- The value of a key goes with the segment of its slot. -/
lemma exists_openValue (hlength : segments.length = slots.length) (key : String) :
    ∃ entry : Option OpenValue, (∀ t, entry = some (.time t) → t.hour ≤ 24 ∧ t.minute ≤ 59) ∧
      ∀ (now : Timestamp) (e : Extract), e.Records slots segments now →
        Option.Rel (OpenValue.IsAt now) entry (e.get? key) := by
  by_cases hkey : key ∈ slotKeys slots
  · obtain ⟨slot, hslot, hslotkey⟩ := List.mem_filterMap.1 hkey
    obtain ⟨segment, hmem⟩ := exists_mem_zip hlength hslot
    cases slot with
    | fixed phrase => cases hslotkey
    | greedy k =>
      refine ⟨some (.words segment), nofun, fun now e he => ?_⟩
      obtain ⟨value, hvalue, hget⟩ := he.get?_eq _ _ _ hmem hslotkey
      rw [hget]
      exact .some hvalue
    | time k =>
      refine ⟨(RelativeTime.ofWords? segment).map .time, fun t ht => ?_, fun now e he => ?_⟩
      · obtain ⟨t', ht', heq⟩ := Option.map_eq_some_iff.1 ht
        rw [← OpenValue.time.inj heq]
        exact RelativeTime.le_of_ofWords? ht'
      · obtain ⟨value, ⟨t, stamp, ht, hstamp, rfl⟩, hget⟩ := he.get?_eq _ _ _ hmem hslotkey
        rw [hget, ht]
        exact .some ⟨stamp, hstamp, rfl⟩
  · refine ⟨none, nofun, fun now e he => ?_⟩
    rw [he.get?_eq_none hkey]
    exact .none

/-- The extracts of one segmentation are one open extract, seen from each time. -/
lemma exists_openExtract (hlength : segments.length = slots.length) :
    ∃ o : OpenExtract, ∀ (now : Timestamp) (e : Extract), e.Records slots segments now →
      o.IsAt now e := by
  choose entry? hle hrel using exists_openValue hlength
  refine ⟨⟨if slotKeys slots = [] then .noData else .data, entry?, hle⟩, fun now e he => ?_⟩
  exact ⟨he.quality_eq, fun key => hrel key now e he⟩

end Segments

/-- Whether a grammar fits, and what it gets but for the times, does not depend on the time. -/
theorem Grammar.hasOpenAnswer_extract (grammar : Grammar) (ws : List String) :
    HasOpenAnswer OpenExtract.IsAt (grammar.extract ws) := by
  by_cases h : ∃ segments rest, Segmentation grammar.slots ws segments rest
  · obtain ⟨segments, rest, hsegments⟩ := h
    obtain ⟨o, ho⟩ := exists_openExtract hsegments.length_eq
    refine ⟨some o, fun now hnow => ?_⟩
    obtain ⟨e, he, hrecords⟩ := extract_of_segmentation hnow hsegments
    exact ⟨some e, he, .some (ho now e hrecords)⟩
  · refine ⟨none, fun now hnow => ⟨none, ?_, .none⟩⟩
    exact extract_of_not_segmentation hnow fun segments rest h' => h ⟨segments, rest, h'⟩

/-- Which grammar of a command fits first does not depend on the time. -/
theorem Command.hasOpenAnswer_firstExtract (ws : List String) (grammars : List Grammar) :
    HasOpenAnswer OpenExtract.IsAt fun now => firstExtract ws now grammars := by
  induction grammars with
  | nil => exact ⟨none, fun now _ => ⟨none, rfl, .none⟩⟩
  | cons grammar grammars ih =>
    obtain ⟨found, hfound⟩ := grammar.hasOpenAnswer_extract ws
    cases found with
    | none =>
      obtain ⟨later, hlater⟩ := ih
      refine ⟨later, fun now hnow => ?_⟩
      obtain ⟨_, hanswer, ⟨⟩⟩ := hfound now hnow
      simp only [firstExtract, hanswer]
      exact hlater now hnow
    | some o =>
      refine ⟨some o, fun now hnow => ?_⟩
      obtain ⟨_, hanswer, hrel⟩ := hfound now hnow
      cases hrel with
      | some hat =>
        simp only [firstExtract, hanswer]
        exact ⟨_, rfl, .some hat⟩

/-- Whether a command fits, and what it gets but for the times, does not depend on the time. -/
theorem Command.hasOpenAnswer_extract (command : Command) (sentence : String) :
    HasOpenAnswer OpenExtract.IsAt (command.extract sentence) :=
  hasOpenAnswer_firstExtract (words sentence) command.grammars

/-! ## The open answer of several commands -/

/-- A command with what it gets out of a sentence, the times left open. -/
structure OpenRecognition where
  /-- The command. -/
  command : Command
  /-- What it gets out of the sentence. -/
  extract : OpenExtract

/-- The recognition is the open recognition, seen from `now`. -/
structure OpenRecognition.IsAt (now : Timestamp) (o : OpenRecognition) (a : Recognition) :
    Prop where
  /-- The command does not depend on the time. -/
  command_eq : a.command = o.command
  /-- Its extract is the open one, seen from there. -/
  extract_isAt : o.extract.IsAt now a.extract

namespace Repertoire

/-- The better of two open recognitions, by the same rule as for recognitions. -/
lemma exists_openBetter (best : Option OpenRecognition) (o : OpenRecognition) :
    ∃ found : OpenRecognition, ∀ (now : Timestamp) (b : Option Recognition) (a : Recognition),
      Option.Rel (OpenRecognition.IsAt now) best b → o.IsAt now a →
        found.IsAt now (better b a) := by
  cases best with
  | none =>
    refine ⟨o, fun now b a hb ha => ?_⟩
    cases hb
    exact ha
  | some best =>
    by_cases hlt : best.extract.quality.rank < o.extract.quality.rank
    · refine ⟨o, fun now b a hb ha => ?_⟩
      cases hb with
      | some hbest =>
        rw [better, if_pos]
        · exact ha
        · rwa [Recognition.outranks, hbest.extract_isAt.quality_eq, ha.extract_isAt.quality_eq,
            decide_eq_true_eq]
    · refine ⟨best, fun now b a hb ha => ?_⟩
      cases hb with
      | some hbest =>
        rw [better, if_neg]
        · exact hbest
        · rwa [Recognition.outranks, hbest.extract_isAt.quality_eq, ha.extract_isAt.quality_eq,
            decide_eq_true_eq]

/-- Which command is the best does not depend on the time. -/
theorem hasOpenAnswer_bestOf (sentence : String) (best : Option OpenRecognition)
    (commands : List Command) :
    ∃ found : Option OpenRecognition, ∀ now : Timestamp, now.HasRoom → ∀ b : Option Recognition,
      Option.Rel (OpenRecognition.IsAt now) best b →
        ∃ answer, bestOf sentence now b commands = .ok answer ∧
          Option.Rel (OpenRecognition.IsAt now) found answer := by
  induction commands generalizing best with
  | nil => exact ⟨best, fun now _ b hb => ⟨b, rfl, hb⟩⟩
  | cons command commands ih =>
    obtain ⟨found, hfound⟩ := command.hasOpenAnswer_extract sentence
    cases found with
    | none =>
      obtain ⟨later, hlater⟩ := ih best
      refine ⟨later, fun now hnow b hb => ?_⟩
      obtain ⟨_, hanswer, ⟨⟩⟩ := hfound now hnow
      rw [bestOf, hanswer]
      exact hlater now hnow b hb
    | some o =>
      obtain ⟨next, hnext⟩ := exists_openBetter best ⟨command, o⟩
      obtain ⟨later, hlater⟩ := ih (some next)
      refine ⟨later, fun now hnow b hb => ?_⟩
      obtain ⟨_, hanswer, hrel⟩ := hfound now hnow
      cases hrel with
      | some hat =>
        rw [bestOf, hanswer]
        exact hlater now hnow _ (.some (hnext now b ⟨command, _⟩ hb ⟨rfl, hat⟩))

/-- What is recognized, but for the times, does not depend on the time. -/
theorem hasOpenAnswer_recognize (r : Repertoire) (sentence : String) :
    HasOpenAnswer OpenRecognition.IsAt (r.recognize sentence) := by
  obtain ⟨found, hfound⟩ := hasOpenAnswer_bestOf (lowercase sentence) none r.commands
  exact ⟨found, fun now hnow => hfound now hnow none .none⟩

end Repertoire

/-! ## Two times -/

namespace OpenExtract

/-- The relative time of a key, if its open value is a time. -/
def time? (o : OpenExtract) (key : String) : Option RelativeTime :=
  match o.entry? key with
  | some (.time t) => some t
  | _ => none

/-- A key has a relative time when its open value is this time. -/
lemma time?_eq_some_iff {o : OpenExtract} {key : String} {t : RelativeTime} :
    o.time? key = some t ↔ o.entry? key = some (.time t) := by
  unfold time?
  split <;> simp_all

variable {o : OpenExtract} {now : Timestamp} {e : Extract} {key : String}

/-- A key is bound to nothing, to words, or to a time, as its open value is. -/
lemma IsAt.get?_cases (h : o.IsAt now e) (key : String) :
    (o.entry? key = none ∧ e.get? key = none) ∨
    (∃ ws, o.entry? key = some (.words ws) ∧ e.get? key = some (.words ws)) ∨
    (∃ t stamp, o.entry? key = some (.time t) ∧ t.resolve? now = some stamp ∧
      e.get? key = some (.time stamp)) := by
  have hrel := h.rel_get? key
  generalize e.get? key = value? at hrel ⊢
  generalize o.entry? key = entry at hrel ⊢
  cases hrel with
  | none => exact .inl ⟨rfl, rfl⟩
  | @some entry value hat =>
    cases entry with
    | words ws =>
      obtain rfl : value = .words ws := hat
      exact .inr (.inl ⟨ws, rfl, rfl⟩)
    | time t =>
      obtain ⟨stamp, hstamp, rfl⟩ := hat
      exact .inr (.inr ⟨t, stamp, rfl, hstamp, rfl⟩)

/-- The reference time does not decide which keys have a value. -/
lemma IsAt.isSome_get? (h : o.IsAt now e) (key : String) :
    (e.get? key).isSome = (o.entry? key).isSome := by
  obtain ⟨hentry, hget⟩ | ⟨ws, hentry, hget⟩ | ⟨t, stamp, hentry, -, hget⟩ := h.get?_cases key <;>
    rw [hentry, hget] <;> rfl

/-- Words are the same at every reference time. -/
lemma IsAt.get?_eq_words_iff (h : o.IsAt now e) {ws : List String} :
    e.get? key = some (.words ws) ↔ o.entry? key = some (.words ws) := by
  obtain ⟨hentry, hget⟩ | ⟨ws, hentry, hget⟩ | ⟨t, stamp, hentry, -, hget⟩ := h.get?_cases key <;>
    simp [hentry, hget]

/-- A time is the relative time of its key, seen from the reference time. -/
lemma IsAt.get?_eq_time_iff (h : o.IsAt now e) {stamp : Timestamp} :
    e.get? key = some (.time stamp) ↔ ∃ t, o.time? key = some t ∧ t.resolve? now = some stamp := by
  simp only [time?_eq_some_iff]
  obtain ⟨hentry, hget⟩ | ⟨ws, hentry, hget⟩ | ⟨t, stamp', hentry, hstamp, hget⟩ :=
    h.get?_cases key <;> simp [*]

end OpenExtract

/-- The keys with a value are those that are bound. -/
lemma Extract.mem_keys_iff {e : Extract} {key : String} :
    key ∈ e.values.keys ↔ (e.get? key).isSome = true := by
  rw [Bindings.mem_keys_iff, Option.isSome_iff_exists]
  rfl

/-- The two recognitions, at two times, are the same but for their timestamps. These belong to the
relative times `times`, by key. -/
structure Recognition.SameButTimes (times : String → Option RelativeTime) (now₁ now₂ : Timestamp)
    (a₁ a₂ : Recognition) : Prop where
  /-- The commands are the same. -/
  command_eq : a₁.command = a₂.command
  /-- The ranks are the same. -/
  quality_eq : a₁.extract.quality = a₂.extract.quality
  /-- The keys are the same. -/
  mem_keys_iff : ∀ key, key ∈ a₁.extract.values.keys ↔ key ∈ a₂.extract.values.keys
  /-- The words of each key are the same. -/
  get?_words_iff : ∀ key ws,
    a₁.extract.get? key = some (.words ws) ↔ a₂.extract.get? key = some (.words ws)
  /-- The timestamps of the first are those of the relative times at the first time. -/
  get?_time_iff₁ : ∀ key stamp, a₁.extract.get? key = some (.time stamp) ↔
    ∃ t, times key = some t ∧ t.resolve? now₁ = some stamp
  /-- The timestamps of the second are those of the relative times at the second time. -/
  get?_time_iff₂ : ∀ key stamp, a₂.extract.get? key = some (.time stamp) ↔
    ∃ t, times key = some t ∧ t.resolve? now₂ = some stamp

/-- Two recognitions that are one open recognition are the same but for their timestamps. -/
lemma OpenRecognition.IsAt.sameButTimes {o : OpenRecognition} {now₁ now₂ : Timestamp}
    {a₁ a₂ : Recognition} (h₁ : o.IsAt now₁ a₁) (h₂ : o.IsAt now₂ a₂) :
    a₁.SameButTimes o.extract.time? now₁ now₂ a₂ where
  command_eq := h₁.command_eq.trans h₂.command_eq.symm
  quality_eq := h₁.extract_isAt.quality_eq.trans h₂.extract_isAt.quality_eq.symm
  mem_keys_iff key := by
    rw [Extract.mem_keys_iff, Extract.mem_keys_iff, h₁.extract_isAt.isSome_get?,
      h₂.extract_isAt.isSome_get?]
  get?_words_iff key ws := by
    rw [h₁.extract_isAt.get?_eq_words_iff, h₂.extract_isAt.get?_eq_words_iff]
  get?_time_iff₁ key stamp := h₁.extract_isAt.get?_eq_time_iff
  get?_time_iff₂ key stamp := h₂.extract_isAt.get?_eq_time_iff

namespace Repertoire

/-- **One sentence at two times.** A repertoire recognizes a sentence at both times or at neither,
and what it recognizes is the same but for the timestamps. These are the times, seen from the two
reference times, of relative times that go with the repertoire and the sentence alone.

**Proof sketch.** With the time left open there is one answer to the sentence
(`hasOpenAnswer_recognize`): the segmentation of the words along a grammar is without a time, a
grammar has an extract where there is a segmentation, and the rank of an extract goes with the keys
of the slots. So the first grammar that fits and the best command are the same at all times. -/
theorem recognize_sameButTimes (r : Repertoire) (sentence : String) :
    ∃ times : String → Option RelativeTime,
      (∀ key t, times key = some t → t.hour ≤ 24 ∧ t.minute ≤ 59) ∧
      ∀ now₁ now₂ : Timestamp, now₁.HasRoom → now₂.HasRoom →
        ∃ answer₁ answer₂, r.recognize sentence now₁ = .ok answer₁ ∧
          r.recognize sentence now₂ = .ok answer₂ ∧
          Option.Rel (Recognition.SameButTimes times now₁ now₂) answer₁ answer₂ := by
  obtain ⟨found, hfound⟩ := hasOpenAnswer_recognize r sentence
  cases found with
  | none =>
    refine ⟨fun _ => none, nofun, fun now₁ now₂ hnow₁ hnow₂ => ?_⟩
    obtain ⟨_, hanswer₁, ⟨⟩⟩ := hfound now₁ hnow₁
    obtain ⟨_, hanswer₂, ⟨⟩⟩ := hfound now₂ hnow₂
    exact ⟨none, none, hanswer₁, hanswer₂, .none⟩
  | some o =>
    refine ⟨o.extract.time?, fun key t ht => ?_, fun now₁ now₂ hnow₁ hnow₂ => ?_⟩
    · exact o.extract.le_of_entry? key t (OpenExtract.time?_eq_some_iff.1 ht)
    · obtain ⟨_, hanswer₁, @⟨_, a₁, hat₁⟩⟩ := hfound now₁ hnow₁
      obtain ⟨_, hanswer₂, @⟨_, a₂, hat₂⟩⟩ := hfound now₂ hnow₂
      exact ⟨some a₁, some a₂, hanswer₁, hanswer₂, .some (hat₁.sameButTimes hat₂)⟩

/-- A reminder for the day after, on a morning in 2017 and on the last day with eight more. -/
theorem recognize_sleep_tomorrow_at_two_times :
    ∃ morning : Timestamp, morning.date.year = 2017 ∧ morning.HasRoom ∧
      Timestamp.lastWithRoom.HasRoom ∧ ∃ times a₁ a₂,
        builtin.recognize "Remind me to sleep tomorrow" morning = .ok (some a₁) ∧
        builtin.recognize "Remind me to sleep tomorrow" .lastWithRoom = .ok (some a₂) ∧
        a₁.SameButTimes times morning .lastWithRoom a₂ := by
  let morning : Timestamp := ⟨⟨2017, 6, 1, by decide⟩, ⟨10, 15, 0, 0, by decide⟩⟩
  have hmorning : morning.HasRoom := by decide
  have hlast := Timestamp.hasRoom_lastWithRoom
  obtain ⟨times, -, htwo⟩ := recognize_sameButTimes builtin "Remind me to sleep tomorrow"
  obtain ⟨_, _, hanswer₁, hanswer₂, hrel⟩ := htwo morning .lastWithRoom hmorning hlast
  cases hrel with
  | some hsame => exact ⟨morning, rfl, hmorning, hlast, times, _, _, hanswer₁, hanswer₂, hsame⟩
  | none =>
    have hsome : ∃ a, builtin.recognize "Remind me to sleep tomorrow" .lastWithRoom =
        .ok (some a) := ⟨_, rfl⟩
    obtain ⟨a, ha⟩ := hsome
    rw [ha] at hanswer₂
    cases hanswer₂

end Repertoire

end Utterance
