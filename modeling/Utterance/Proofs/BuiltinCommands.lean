import Utterance.Proofs.Commitment
import Utterance.Proofs.Ranking

set_option autoImplicit false

/-!
# What the built-in commands recognize

The built-in commands recognize three kinds of sentences: a time phrase in front of
`remind me to` and any words, `remind me to` in front of some words and a time phrase, and sentences
that begin with `show me the weather`. No sentence is of two kinds, so it does not matter in which
order the commands, or the two grammars of a reminder, are tried.

## Main definitions

* `Utterance.TimeFirst`, `Utterance.TimeLast`, `Utterance.AsksWeather`: the three kinds.
* `Utterance.ShortestTimeLast`: the words to be reminded of, before the time.
* `Utterance.Repertoire.IsReordering`: the built-in commands in some order.

## Main results

* `Utterance.Repertoire.recognize_eq_some`: with one command that fits, the order does not matter.
* `Utterance.Repertoire.recognize_builtin`: the answers of the built-in commands.
-/

namespace Utterance

open Calendar Text

/-! ## Commands that do not compete -/

/-- **If one command only has an extract, it is recognized**, whatever its place among the
commands. -/
theorem Repertoire.recognize_eq_some {r : Repertoire} {sentence : String} {now : Timestamp}
    {command : Command} {e : Extract} (hmem : command ∈ r.commands)
    (hsome : command.extract (lowercase sentence) now = .ok (some e))
    (h : ∀ other ∈ r.commands, other.extract (lowercase sentence) now = .ok none ∨
      other = command ∧ other.extract (lowercase sentence) now = .ok (some e)) :
    r.recognize sentence now = .ok (some ⟨command, e⟩) := by
  have hall : ∀ other ∈ r.commands,
      other.extract (lowercase sentence) now ≠ .error .calendarEnd := by
    intro other hother
    obtain hnone | ⟨-, hfound⟩ := h other hother
    · simp [hnone]
    · simp [hfound]
  obtain ⟨best, hbest, hisBest⟩ := exists_recognize_isBest hall
  rw [hbest]
  cases best with
  | none =>
    rw [hisBest command hmem] at hsome
    cases hsome
  | some a =>
    obtain ⟨i, ha⟩ := hisBest
    obtain hnone | ⟨hcommand, hfound⟩ := h a.command (List.mem_of_getElem? ha.getElem?_eq)
    · rw [ha.extract_eq] at hnone
      cases hnone
    · rw [ha.extract_eq, Except.ok.injEq, Option.some.injEq] at hfound
      rw [← hcommand, ← hfound]

/-! ## The kinds of sentences -/

/-- A time phrase in front of `remind me to` and any words. -/
structure TimeFirst (ws phrase text : List String) (t : RelativeTime) : Prop where
  /-- The phrase names the time. -/
  time_eq : RelativeTime.ofWords? phrase = some t
  /-- The words are the parts, one after the other. -/
  words_eq : ws = phrase ++ (["remind", "me", "to"] ++ text)

/-- The words `remind me to` in front of some words and a time phrase. -/
structure TimeLast (ws text phrase : List String) (t : RelativeTime) : Prop where
  /-- There is something to be reminded of. -/
  text_ne_nil : text ≠ []
  /-- The phrase names the time. -/
  time_eq : RelativeTime.ofWords? phrase = some t
  /-- The words are the parts, one after the other. -/
  words_eq : ws = ["remind", "me", "to"] ++ (text ++ phrase)

/-- The words to be reminded of end where a time phrase can begin for the first time. -/
structure ShortestTimeLast (ws text phrase : List String) (t : RelativeTime) : Prop
    extends TimeLast ws text phrase t where
  /-- No time phrase that reaches the end of the sentence begins before. -/
  length_le : ∀ {text' phrase' t'}, TimeLast ws text' phrase' t' → text.length ≤ text'.length

/-- A question for the weather. -/
def AsksWeather (ws : List String) : Prop := ["show", "me", "the", "weather"] <+: ws

section Kinds

variable {ws phrase text rest : List String} {segments : List (List String)} {t : RelativeTime}

/-- The segmentation of a sentence with its time first. -/
lemma segmentation_timeFirst_iff : Segmentation timeFirst.slots ws segments rest ↔
    ∃ phrase text t, TimeFirst ws phrase text t ∧
      segments = [phrase, ["remind", "me", "to"], text] ∧ rest = [] := by
  constructor
  · intro h
    obtain ⟨phrase, _, _, rfl, rfl, hphrase, htail⟩ := Divides.cons_iff.1 h
    obtain ⟨_, text, _, rfl, rfl, ⟨rfl, -⟩, hlast⟩ := Divides.cons_iff.1 htail
    obtain ⟨rfl, rfl⟩ := segmentation_singleton_greedy_iff.1 hlast
    obtain ⟨t, ht⟩ := IsLongestRun.holds hphrase
    exact ⟨phrase, text, t, ⟨ht, rfl⟩, rfl, rfl⟩
  · rintro ⟨phrase, text, t, ⟨ht, rfl⟩, rfl, rfl⟩
    -- no time phrase goes on with `remind`, so the phrase in front is the longest one
    have hhead : ∀ w ∈ (["remind", "me", "to"] ++ text).head?, ' ' ∉ w.toList ∧ w ≠ "at" := by
      rintro _ ⟨⟩
      decide
    refine .cons (takes_of_head?_ne_at "time" hhead (RelativeTime.ne_nil_of_ofWords? ht) ht) ?_
    exact .cons ⟨rfl, List.prefix_append _ _⟩ (segmentation_singleton rfl)

/-- A time phrase is a segment of its own. -/
lemma takes_time_self {key : String} (ht : RelativeTime.ofWords? phrase = some t) :
    (Slot.time key).Takes phrase phrase :=
  .self (RelativeTime.ne_nil_of_ofWords? ht) ⟨t, ht⟩

/-- The segmentation of a sentence with its time last. -/
lemma segmentation_timeLast_iff : Segmentation timeLast.slots ws segments rest ↔
    ∃ text phrase t, ShortestTimeLast ws text phrase t ∧
      segments = [["remind", "me", "to"], text, phrase] ∧ rest = [] := by
  constructor
  · intro h
    obtain ⟨_, after, _, rfl, rfl, ⟨rfl, -⟩, htail⟩ := Divides.cons_iff.1 h
    obtain rfl := rest_eq_nil_of_segmentation_greedy_cons rfl rfl htail
    obtain ⟨text, _, _, rfl, rfl, htext, hlast⟩ := Divides.cons_iff.1 htail
    obtain ⟨phrase, _, _, rfl, rfl, hphrase, hnil⟩ := Divides.cons_iff.1 hlast
    obtain ⟨rfl, rfl⟩ := Divides.nil_iff.1 hnil
    obtain ⟨t, ht⟩ := IsLongestRun.holds hphrase
    refine ⟨text, phrase, t, ⟨⟨Slot.IsShortestRun.ne_nil htext, ht, by simp⟩, ?_⟩, rfl, rfl⟩
    intro text' phrase' t' h'
    exact Slot.IsShortestRun.length_le htext text' phrase' phrase' h'.text_ne_nil
      (List.append_cancel_left h'.words_eq).symm ⟨takes_time_self h'.time_eq, fun _ => rfl⟩
  · rintro ⟨text, phrase, t, ⟨⟨hne, ht, rfl⟩, hshortest⟩, rfl, rfl⟩
    refine .cons ⟨rfl, List.prefix_append _ _⟩ (.cons ⟨hne, ?_, ?_⟩ ?_)
    · exact ⟨phrase, phrase, rfl, takes_time_self ht, fun _ => rfl⟩
    · -- the time slot is the last one, so after a shorter run its segment reaches the end too
      intro other after taken hother hwords htaken
      obtain rfl : taken = after := htaken.2 rfl
      obtain ⟨t', ht'⟩ := IsLongestRun.holds htaken.1
      exact hshortest ⟨hother, ht', by rw [hwords]⟩
    · exact segmentation_singleton (takes_time_self ht)

/-- The segmentation of a question for the weather. -/
lemma segmentation_showWeather_iff : Segmentation showWeather.slots ws segments rest ↔
    segments = [["show", "me", "the", "weather"]] ∧
      ws = ["show", "me", "the", "weather"] ++ rest := by
  constructor
  · intro h
    obtain ⟨_, after, _, rfl, rfl, ⟨rfl, -⟩, hnil⟩ := Divides.cons_iff.1 h
    obtain ⟨rfl, rfl⟩ := Divides.nil_iff.1 hnil
    exact ⟨rfl, rfl⟩
  · rintro ⟨rfl, rfl⟩
    exact .cons ⟨rfl, List.prefix_append _ _⟩ (.nil rest)

/-- A sentence has its time first in one way only. -/
theorem TimeFirst.unique {phrase' text' : List String} {t' : RelativeTime}
    (h : TimeFirst ws phrase text t) (h' : TimeFirst ws phrase' text' t') :
    phrase = phrase' ∧ text = text' ∧ t = t' := by
  obtain ⟨heq, -⟩ := Segmentation.unique (segmentation_timeFirst_iff.2 ⟨_, _, _, h, rfl, rfl⟩)
    (segmentation_timeFirst_iff.2 ⟨_, _, _, h', rfl, rfl⟩)
  simp only [List.cons.injEq, and_true, true_and] at heq
  obtain ⟨rfl, rfl⟩ := heq
  exact ⟨rfl, rfl, Option.some.inj (h.time_eq.symm.trans h'.time_eq)⟩

/-- Where some text stands before the time, there is a shortest one. -/
theorem TimeLast.exists_shortest (h : TimeLast ws text phrase t) :
    ∃ text phrase t, ShortestTimeLast ws text phrase t := by
  have hadmits : (Slot.time "time").Admits [] phrase phrase :=
    ⟨RelativeTime.ne_nil_of_ofWords? h.time_eq, t, h.time_eq⟩
  obtain ⟨segments, rest, hsegments⟩ :=
    exists_segmentation_greedy_cons "reminder" rfl rfl h.text_ne_nil hadmits
  have hall : Segmentation timeLast.slots ws (["remind", "me", "to"] :: segments) rest :=
    h.words_eq ▸ .cons ⟨rfl, List.prefix_append _ _⟩ hsegments
  obtain ⟨text, phrase, t, hshortest, -⟩ := segmentation_timeLast_iff.1 hall
  exact ⟨text, phrase, t, hshortest⟩

/-! ## No sentence is of two kinds -/

/-- A sentence with its time first does not begin with a word that means nothing. -/
lemma TimeFirst.ne_cons {w : String} {after : List String} (h : TimeFirst ws phrase text t)
    (hspace : ' ' ∉ w.toList) (hother : TimeWord.ofChars w.toList = .other) : ws ≠ w :: after := by
  intro heq
  obtain ⟨ht, rfl⟩ := h
  cases phrase with
  | nil => cases ht
  | cons v phrase =>
    obtain rfl := (List.cons.inj heq).1
    rw [RelativeTime.ofWords?_cons_eq_none hspace hother] at ht
    cases ht

/-- The time does not stand both first and last. -/
theorem TimeFirst.not_timeLast {phrase' text' : List String} {t' : RelativeTime}
    (h : TimeFirst ws phrase text t) : ¬ TimeLast ws text' phrase' t' :=
  fun h' => h.ne_cons (by decide) (by decide) h'.words_eq

/-- A sentence with its time first is no question for the weather. -/
theorem TimeFirst.not_asksWeather (h : TimeFirst ws phrase text t) : ¬ AsksWeather ws := by
  rintro ⟨after, hafter⟩
  exact h.ne_cons (by decide) (by decide) hafter.symm

/-- A sentence with its time last is no question for the weather. -/
theorem TimeLast.not_asksWeather (h : TimeLast ws text phrase t) : ¬ AsksWeather ws := by
  rintro ⟨after, hafter⟩
  rw [h.words_eq] at hafter
  exact absurd (List.cons.inj hafter).1 (by decide)

end Kinds

/-! ## The answers of the grammars -/

/-- The data of a reminder: its time and the words to be reminded of. -/
def reminderData (stamp : Timestamp) (text : List String) : Extract :=
  .data ⟨[("reminder", .words text), ("time", .time stamp)],
    List.pairwise_pair.2 (show "reminder" < "time" by decide)⟩

section Grammars

variable {ws phrase text : List String} {t : RelativeTime} {now stamp : Timestamp}

/-- The answer to a sentence with its time first. -/
lemma extract_timeFirst (h : TimeFirst ws phrase text t) (hstamp : t.resolve? now = some stamp) :
    timeFirst.extract ws now = .ok (some (reminderData stamp text)) := by
  have hsegments := segmentation_timeFirst_iff.2 ⟨phrase, text, t, h, rfl, rfl⟩
  have hvalues : keepAll now .empty (timeFirst.slots.zipWith Segment.mk
      [phrase, ["remind", "me", "to"], text]) =
      .ok ((Bindings.empty.insert "time" (.time stamp)).insert "reminder" (.words text)) := by
    simp [timeFirst, remindMeTo, keepAll, keep, Slot.key?, Slot.value, timeNamed, h.time_eq, hstamp]
  exact Grammar.extract_eq_of_keepAll hsegments hvalues

/-- A sentence without its time first does not fit the first grammar. -/
lemma extract_timeFirst_eq_none (hnow : now.HasRoom)
    (h : ∀ phrase text t, ¬ TimeFirst ws phrase text t) : timeFirst.extract ws now = .ok none := by
  refine Grammar.extract_of_not_segmentation hnow fun segments rest hsegments => ?_
  obtain ⟨phrase, text, t, hfirst, -⟩ := segmentation_timeFirst_iff.1 hsegments
  exact h phrase text t hfirst

/-- The answer to a sentence with its time last. -/
lemma extract_timeLast (h : ShortestTimeLast ws text phrase t)
    (hstamp : t.resolve? now = some stamp) :
    timeLast.extract ws now = .ok (some (reminderData stamp text)) := by
  have hsegments := segmentation_timeLast_iff.2 ⟨text, phrase, t, h, rfl, rfl⟩
  have hvalues : keepAll now .empty (timeLast.slots.zipWith Segment.mk
      [["remind", "me", "to"], text, phrase]) =
      .ok ((Bindings.empty.insert "reminder" (.words text)).insert "time" (.time stamp)) := by
    simp [timeLast, remindMeTo, keepAll, keep, Slot.key?, Slot.value, timeNamed, h.time_eq, hstamp]
  exact Grammar.extract_eq_of_keepAll hsegments hvalues

/-- A sentence without its time last does not fit the second grammar. -/
lemma extract_timeLast_eq_none (hnow : now.HasRoom)
    (h : ∀ text phrase t, ¬ TimeLast ws text phrase t) : timeLast.extract ws now = .ok none := by
  refine Grammar.extract_of_not_segmentation hnow fun segments rest hsegments => ?_
  obtain ⟨text, phrase, t, hlast, -⟩ := segmentation_timeLast_iff.1 hsegments
  exact h text phrase t hlast.toTimeLast

/-- The answer to a question for the weather. -/
lemma extract_showWeather (h : AsksWeather ws) :
    showWeather.extract ws now = .ok (some .noData) := by
  obtain ⟨rest, rfl⟩ := h
  exact Grammar.extract_eq_of_keepAll (segmentation_showWeather_iff.2 ⟨rfl, rfl⟩) rfl

/-- Words that do not ask for the weather do not fit its grammar. -/
lemma extract_showWeather_eq_none (hnow : now.HasRoom) (h : ¬ AsksWeather ws) :
    showWeather.extract ws now = .ok none := by
  refine Grammar.extract_of_not_segmentation hnow fun segments rest hsegments => h ?_
  obtain ⟨-, rfl⟩ := segmentation_showWeather_iff.1 hsegments
  exact ⟨rest, rfl⟩

end Grammars

/-! ## The answers of the commands -/

namespace Command

variable {sentence : String} {now : Timestamp}

/-- The weather has an extract from the questions for it. -/
lemma extract_weather (h : AsksWeather (words sentence)) :
    weather.extract sentence now = .ok (some .noData) :=
  firstExtract_eq_some (by simp [weather, extract_showWeather h])
    ⟨showWeather, List.mem_singleton_self _, extract_showWeather h⟩

/-- A sentence that does not ask for the weather gives the weather command nothing. -/
lemma extract_weather_eq_none (hnow : now.HasRoom) (h : ¬ AsksWeather (words sentence)) :
    weather.extract sentence now = .ok none :=
  firstExtract_eq_none_iff.2 (by simp [weather, extract_showWeather_eq_none hnow h])

end Command

/-- The name of the command and what it gets out of the sentence. -/
def Recognition.report (a : Recognition) : String × Extract := (a.command.name, a.extract)

/-- The repertoire has the built-in commands in some order, and the grammars of the reminder stand
in some order. -/
structure Repertoire.IsReordering (r : Repertoire) (reminder : Command) : Prop where
  /-- The reminder is called so. -/
  name_eq : reminder.name = Command.reminder.name
  /-- Its grammars are those of the built-in reminder. -/
  grammars_perm : reminder.grammars.Perm Command.reminder.grammars
  /-- The commands are the reminder and the question for the weather. -/
  commands_perm : r.commands.Perm [reminder, .weather]

namespace Repertoire.IsReordering

variable {r : Repertoire} {reminder : Command} {sentence : String} {phrase text : List String}
  {t : RelativeTime} {now stamp : Timestamp}

/-- A reordered reminder has the same two grammars. -/
lemma mem_grammars_iff (hr : r.IsReordering reminder) {grammar : Grammar} :
    grammar ∈ reminder.grammars ↔ grammar = timeFirst ∨ grammar = timeLast := by
  rw [hr.grammars_perm.mem_iff]
  simp [Command.reminder]

/-- A reordered repertoire has the same two commands. -/
lemma mem_commands_iff (hr : r.IsReordering reminder) {command : Command} :
    command ∈ r.commands ↔ command = reminder ∨ command = .weather := by
  rw [hr.commands_perm.mem_iff]
  simp

/-- The reminder has the extract that one of its grammars has and the other does not contest. -/
lemma extract_reminder (hr : r.IsReordering reminder) {e : Extract}
    (hfirst : timeFirst.extract (words sentence) now = .ok none ∨
      timeFirst.extract (words sentence) now = .ok (some e))
    (hlast : timeLast.extract (words sentence) now = .ok none ∨
      timeLast.extract (words sentence) now = .ok (some e))
    (hsome : timeFirst.extract (words sentence) now = .ok (some e) ∨
      timeLast.extract (words sentence) now = .ok (some e)) :
    reminder.extract sentence now = .ok (some e) := by
  refine Command.firstExtract_eq_some ?_ ?_
  · intro grammar hmem
    obtain rfl | rfl := hr.mem_grammars_iff.1 hmem
    · exact hfirst
    · exact hlast
  · obtain h | h := hsome
    · exact ⟨timeFirst, hr.mem_grammars_iff.2 (.inl rfl), h⟩
    · exact ⟨timeLast, hr.mem_grammars_iff.2 (.inr rfl), h⟩

/-- The reminder has no extract from a sentence without a time first or last. -/
lemma extract_reminder_eq_none (hr : r.IsReordering reminder) (hnow : now.HasRoom)
    (hfirst : ∀ phrase text t, ¬ TimeFirst (words sentence) phrase text t)
    (hlast : ∀ text phrase t, ¬ TimeLast (words sentence) text phrase t) :
    reminder.extract sentence now = .ok none := by
  refine Command.firstExtract_eq_none_iff.2 fun grammar hmem => ?_
  obtain rfl | rfl := hr.mem_grammars_iff.1 hmem
  · exact extract_timeFirst_eq_none hnow hfirst
  · exact extract_timeLast_eq_none hnow hlast

/-- The reminder is recognized where it has an extract and the weather has none. -/
lemma recognize_reminder (hr : r.IsReordering reminder) (hnow : now.HasRoom) {e : Extract}
    (h : reminder.extract (lowercase sentence) now = .ok (some e))
    (hweather : ¬ AsksWeather (words (lowercase sentence))) :
    r.recognize sentence now = .ok (some ⟨reminder, e⟩) := by
  refine recognize_eq_some (hr.mem_commands_iff.2 (.inl rfl)) h fun other hmem => ?_
  obtain rfl | rfl := hr.mem_commands_iff.1 hmem
  · exact .inr ⟨rfl, h⟩
  · exact .inl (Command.extract_weather_eq_none hnow hweather)

/-- A reminder with its time first is recognized. -/
theorem recognize_timeFirst (hr : r.IsReordering reminder) (hnow : now.HasRoom)
    (h : TimeFirst (words (lowercase sentence)) phrase text t)
    (hstamp : t.resolve? now = some stamp) :
    r.recognize sentence now = .ok (some ⟨reminder, reminderData stamp text⟩) := by
  have hfirst := extract_timeFirst h hstamp
  have hlast := extract_timeLast_eq_none hnow fun _ _ _ => h.not_timeLast
  refine hr.recognize_reminder hnow ?_ h.not_asksWeather
  exact hr.extract_reminder (.inr hfirst) (.inl hlast) (.inl hfirst)

/-- A reminder with its time last is recognized, with the shortest text before the time. -/
theorem recognize_timeLast (hr : r.IsReordering reminder) (hnow : now.HasRoom)
    (h : ShortestTimeLast (words (lowercase sentence)) text phrase t)
    (hstamp : t.resolve? now = some stamp) :
    r.recognize sentence now = .ok (some ⟨reminder, reminderData stamp text⟩) := by
  have hfirst := extract_timeFirst_eq_none hnow fun _ _ _ h' => h'.not_timeLast h.toTimeLast
  have hlast := extract_timeLast h hstamp
  refine hr.recognize_reminder hnow ?_ h.not_asksWeather
  exact hr.extract_reminder (.inl hfirst) (.inr hlast) (.inr hlast)

/-- A question for the weather is recognized. -/
theorem recognize_weather (hr : r.IsReordering reminder) (hnow : now.HasRoom)
    (h : AsksWeather (words (lowercase sentence))) :
    r.recognize sentence now = .ok (some ⟨.weather, .noData⟩) := by
  have hreminder := hr.extract_reminder_eq_none hnow
    (fun _ _ _ h' => h'.not_asksWeather h) (fun _ _ _ h' => h'.not_asksWeather h)
  have hextract : Command.weather.extract (lowercase sentence) now = .ok (some .noData) :=
    Command.extract_weather h
  refine recognize_eq_some (hr.mem_commands_iff.2 (.inr rfl)) hextract fun other hmem => ?_
  obtain rfl | rfl := hr.mem_commands_iff.1 hmem
  · exact .inl hreminder
  · exact .inr ⟨rfl, hextract⟩

/-- A sentence of none of the three kinds is not recognized. -/
theorem recognize_eq_none (hr : r.IsReordering reminder) (hnow : now.HasRoom)
    (hfirst : ∀ phrase text t, ¬ TimeFirst (words (lowercase sentence)) phrase text t)
    (hlast : ∀ text phrase t, ¬ TimeLast (words (lowercase sentence)) text phrase t)
    (hweather : ¬ AsksWeather (words (lowercase sentence))) :
    r.recognize sentence now = .ok none := by
  have hnone : ∀ command ∈ r.commands, command.extract (lowercase sentence) now = .ok none := by
    intro command hmem
    obtain rfl | rfl := hr.mem_commands_iff.1 hmem
    · exact hr.extract_reminder_eq_none hnow hfirst hlast
    · exact Command.extract_weather_eq_none hnow hweather
  exact (recognize_eq_ok_iff fun command hmem => by simp [hnone command hmem]).2 hnone

end Repertoire.IsReordering

namespace Repertoire

/-- The built-in commands are in an order of theirs. -/
lemma isReordering_builtin : builtin.IsReordering .reminder :=
  ⟨rfl, .refl _, .refl _⟩

/-- **The order of the built-in commands and of the grammars of a reminder does not matter**: no
sentence is of two kinds, so there is one grammar at most that has an extract. -/
theorem IsReordering.report_recognize {r : Repertoire} {reminder : Command}
    (hr : r.IsReordering reminder) (sentence : String) {now : Timestamp} (hnow : now.HasRoom) :
    (r.recognize sentence now).map (Option.map Recognition.report) =
      (builtin.recognize sentence now).map (Option.map Recognition.report) := by
  have hbuiltin := isReordering_builtin
  by_cases hfirst : ∃ phrase text t, TimeFirst (words (lowercase sentence)) phrase text t
  · obtain ⟨phrase, text, t, h⟩ := hfirst
    obtain ⟨stamp, hstamp⟩ := RelativeTime.exists_resolve?_of_ofWords? hnow h.time_eq
    rw [hr.recognize_timeFirst hnow h hstamp, hbuiltin.recognize_timeFirst hnow h hstamp]
    simp [Except.map, Recognition.report, hr.name_eq]
  by_cases hlast : ∃ text phrase t, TimeLast (words (lowercase sentence)) text phrase t
  · obtain ⟨_, _, _, hlast⟩ := hlast
    obtain ⟨text, phrase, t, h⟩ := hlast.exists_shortest
    obtain ⟨stamp, hstamp⟩ := RelativeTime.exists_resolve?_of_ofWords? hnow h.time_eq
    rw [hr.recognize_timeLast hnow h hstamp, hbuiltin.recognize_timeLast hnow h hstamp]
    simp [Except.map, Recognition.report, hr.name_eq]
  by_cases hweather : AsksWeather (words (lowercase sentence))
  · rw [hr.recognize_weather hnow hweather, hbuiltin.recognize_weather hnow hweather]
  · simp only [not_exists] at hfirst hlast
    rw [hr.recognize_eq_none hnow hfirst hlast hweather,
      hbuiltin.recognize_eq_none hnow hfirst hlast hweather]

/-- **The answers of the built-in commands.** A reminder with its time first or last is recognized
with its time and its text, the shortest one before a time at the end; a question for the weather is
recognized without data; nothing else is. The time phrase in front is determined, no sentence is of
two kinds, and the order of the commands and of the grammars of the reminder does not matter.

**Proof sketch.** Each kind is the segmentation along one of the three grammars: the word `remind`
ends every time phrase, so the phrase in front is the longest one, and the shortest run that a time
phrase follows up to the end leaves the time last. A sentence with its time first does not begin
with `remind` or `show`, which begin no time phrase; so one grammar at most has an extract. -/
theorem recognize_builtin (sentence : String) {now : Timestamp} (hnow : now.HasRoom) :
    let ws := words (lowercase sentence)
    (∀ phrase text t, TimeFirst ws phrase text t →
      (∀ phrase' text' t', TimeFirst ws phrase' text' t' → phrase' = phrase) ∧
      ∃ stamp, t.resolve? now = some stamp ∧
        builtin.recognize sentence now = .ok (some ⟨.reminder, reminderData stamp text⟩)) ∧
    ((∃ text phrase t, TimeLast ws text phrase t) →
      ∃ text phrase t, ShortestTimeLast ws text phrase t) ∧
    (∀ text phrase t, ShortestTimeLast ws text phrase t →
      ∃ stamp, t.resolve? now = some stamp ∧
        builtin.recognize sentence now = .ok (some ⟨.reminder, reminderData stamp text⟩)) ∧
    (AsksWeather ws → builtin.recognize sentence now = .ok (some ⟨.weather, .noData⟩)) ∧
    ((∀ phrase text t, ¬ TimeFirst ws phrase text t) →
      (∀ text phrase t, ¬ TimeLast ws text phrase t) → ¬ AsksWeather ws →
        builtin.recognize sentence now = .ok none) ∧
    (∀ phrase text t, TimeFirst ws phrase text t →
      (∀ text' phrase' t', ¬ TimeLast ws text' phrase' t') ∧ ¬ AsksWeather ws) ∧
    (∀ text phrase t, TimeLast ws text phrase t → ¬ AsksWeather ws) ∧
    (∀ r reminder, IsReordering r reminder →
      (r.recognize sentence now).map (Option.map Recognition.report) =
        (builtin.recognize sentence now).map (Option.map Recognition.report)) := by
  have hbuiltin := isReordering_builtin
  refine ⟨?_, ?_, ?_, hbuiltin.recognize_weather hnow, hbuiltin.recognize_eq_none hnow, ?_, ?_, ?_⟩
  · intro phrase text t h
    obtain ⟨stamp, hstamp⟩ := RelativeTime.exists_resolve?_of_ofWords? hnow h.time_eq
    refine ⟨fun _ _ _ h' => (h'.unique h).1, stamp, hstamp, ?_⟩
    exact hbuiltin.recognize_timeFirst hnow h hstamp
  · rintro ⟨_, _, _, h⟩
    exact h.exists_shortest
  · intro text phrase t h
    obtain ⟨stamp, hstamp⟩ := RelativeTime.exists_resolve?_of_ofWords? hnow h.time_eq
    exact ⟨stamp, hstamp, hbuiltin.recognize_timeLast hnow h hstamp⟩
  · intro phrase text t h
    exact ⟨fun _ _ _ => h.not_timeLast, h.not_asksWeather⟩
  · intro text phrase t h
    exact h.not_asksWeather
  · intro r reminder hr
    exact hr.report_recognize sentence hnow

/-- A time phrase among the words to be reminded of does not count when the time stands first. -/
theorem recognize_builtin_eat_at_noon : Timestamp.lastWithRoom.HasRoom ∧
    ∃ stamp, builtin.recognize "Today remind me to eat at noon" .lastWithRoom =
      .ok (some ⟨.reminder, reminderData stamp ["eat", "at", "noon"]⟩) := by
  have hroom := Timestamp.hasRoom_lastWithRoom
  have hfirst : TimeFirst (words (lowercase "Today remind me to eat at noon")) ["today"]
      ["eat", "at", "noon"] ⟨.today, 14, 0⟩ := ⟨rfl, rfl⟩
  obtain ⟨stamp, -, hanswer⟩ := ((recognize_builtin _ hroom).1 _ _ _ hfirst).2
  exact ⟨hroom, stamp, hanswer⟩

end Repertoire

end Utterance
