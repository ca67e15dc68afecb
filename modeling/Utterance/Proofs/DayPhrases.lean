import Utterance.Proofs.ExhaustiveSearch
import Utterance.Proofs.PhraseGrammar

set_option autoImplicit false

/-!
# Days before a clock time

A phrase for a day can go on with a clock time. Whether the longer phrase is one hangs on how the
day is spelled: a weekday alone may have capital letters, but before a clock time it may not. There
the longer phrase is none, nothing waits for the clock time, and a time slot takes the day alone and
leaves the clock time over.

## Main definitions

* `Utterance.DayPhrase`: the phrases for a day.
* `Utterance.TimeWord.ofDay`: the meanings of the words of a day in small letters.

## Main results

* `Utterance.dayText_iff`: the days that may stand before a clock time are the phrases for a day in
  small letters.
* `Utterance.RelativeTime.dayPhrase_iff_ofWords`: how the phrases for a day are read.
* `Utterance.RelativeTime.dayPhrase_at_clock`: what becomes of a day before a clock time.
* `Utterance.RelativeTime.dayPhrase_at_clock_capital`: a day whose clock time is left over.
-/

namespace Utterance

open Calendar

/-! ## Phrases for a day -/

/-- The phrases for a day. The letters of a weekday may be small or capital. -/
inductive DayPhrase : List Char → Day → Prop where
  /-- The day itself. -/
  | today : DayPhrase "today".toList .today
  /-- The day after. -/
  | tomorrow : DayPhrase "tomorrow".toList .tomorrow
  /-- A weekday. -/
  | weekday {name : List Char} {w : Weekday} : IsNameOf (name.map Char.toLower) w →
      DayPhrase ("on ".toList ++ name) (.next w)

/-- The days that may stand before a clock time are the phrases for a day in small letters. -/
theorem dayText_iff {text : List Char} {day : Day} :
    DayText text day ↔ DayPhrase text day ∧ text.map Char.toLower = text := by
  have hon : "on ".toList.map Char.toLower = "on ".toList := by decide
  constructor
  · intro h
    cases h with
    | today => exact ⟨.today, by decide⟩
    | tomorrow => exact ⟨.tomorrow, by decide⟩
    | weekday hname =>
      have hsmall := TimeWord.map_toLower_of_isNameOf hname
      refine ⟨.weekday (hsmall.symm ▸ hname), ?_⟩
      rw [List.map_append, hon, hsmall]
  · rintro ⟨h, hsmall⟩
    cases h with
    | today => exact .today
    | tomorrow => exact .tomorrow
    | weekday hname =>
      rw [List.map_append, hon, List.append_cancel_left_eq] at hsmall
      exact .weekday (hsmall ▸ hname)

namespace TimeWord

/-- The meanings of the words of a day in small letters. -/
def ofDay : Day → List TimeWord
  | .today => [today]
  | .tomorrow => [tomorrow]
  | .next w => [onDay, weekday w true]

variable {d : List String} {text : List Char} {day : Day}

/-- The words of a day in small letters are read as this day. -/
lemma ofText_of_dayText (h : DayText text day) : ofText text = ofDay day := by
  cases h with
  | today => rfl
  | tomorrow => rfl
  | weekday hname =>
    have hsmall := map_toLower_of_isNameOf hname
    have hmeaning := ofText_of_isNameOf (hsmall.symm ▸ hname)
    rw [hsmall, beq_self_eq_true] at hmeaning
    rw [ofDay, ← hmeaning]
    exact ofText_keyword_space (s := "on") (by decide) (by decide) _

/-- A capital letter stands in the name of a weekday. -/
lemma ofText_of_dayPhrase_capital (h : DayPhrase text day) (hcapital : text.map Char.toLower ≠ text) :
    ∃ w, day = .next w ∧ ofText text = [onDay, weekday w false] := by
  cases h with
  | today => exact absurd (by decide) hcapital
  | tomorrow => exact absurd (by decide) hcapital
  | @weekday name w hname =>
    refine ⟨w, rfl, ?_⟩
    have hname_ne : (name == name.map Char.toLower) = false := by
      rw [beq_eq_false_iff_ne]
      intro heq
      refine hcapital ?_
      rw [List.map_append, ← heq]
      rfl
    have hmeaning := ofText_of_isNameOf hname
    rw [hname_ne] at hmeaning
    rw [← hmeaning]
    exact ofText_keyword_space (s := "on") (by decide) (by decide) _

/-- A day takes a word at least. -/
lemma ne_nil_of_dayPhrase (h : DayPhrase (" ".intercalate d).toList day) : d ≠ [] := by
  rintro rfl
  cases h

end TimeWord

namespace RelativeTime

open TimeWord

variable {d ws vs more : List String} {x : String} {day : Day} {t : RelativeTime}
  {hour minute : ℕ}

/-! ## What a day is read as -/

/-- A weekday after `on` is a day, in whatever letters its name is written. -/
lemma dayPhrase_of_ofText_onDay {text : List Char} {w : Weekday} {plain : Bool}
    (h : ofText text = [onDay, weekday w plain]) : DayPhrase text (.next w) := by
  obtain ⟨name, rfl, hname⟩ := exists_of_ofText_eq_keyword (s := "on") (by decide) h
  exact .weekday (ofChars_eq_weekday_iff.1 (ofChars_of_ofText_eq_singleton hname)).1

/-- **Days** are the phrases that are read as one keyword or as a weekday after `on`. -/
theorem dayPhrase_iff_ofWords : DayPhrase (" ".intercalate d).toList day ↔
    ofWords d = ofDay day ∨ ∃ w, day = .next w ∧ ofWords d = [onDay, weekday w false] := by
  constructor
  · intro h
    rw [ofWords_eq_ofText (ne_nil_of_dayPhrase h)]
    by_cases hsmall : (" ".intercalate d).toList.map Char.toLower = (" ".intercalate d).toList
    · exact .inl (ofText_of_dayText (dayText_iff.2 ⟨h, hsmall⟩))
    · exact .inr (ofText_of_dayPhrase_capital h hsmall)
  · intro h
    have hne : d ≠ [] := by
      rintro rfl
      cases day <;> simp [ofDay, ofWords] at h
    rw [ofWords_eq_ofText hne] at h
    obtain h | ⟨w, rfl, h⟩ := h
    · cases day with
      | today => exact eq_of_ofText_eq_keyword (s := "today") (by decide) h ▸ .today
      | tomorrow => exact eq_of_ofText_eq_keyword (s := "tomorrow") (by decide) h ▸ .tomorrow
      | next w => exact dayPhrase_of_ofText_onDay h
    · exact dayPhrase_of_ofText_onDay h

/-- A day is a phrase by itself, with an hour of its own. -/
lemma exists_ofWords?_of_dayPhrase (h : DayPhrase (" ".intercalate d).toList day) :
    ∃ hour, ofWords? d = some ⟨day, hour, 0⟩ := by
  obtain hd | ⟨w, rfl, hd⟩ := dayPhrase_iff_ofWords.1 h
  · rw [ofWords?, hd]
    cases day <;> exact ⟨_, rfl⟩
  · rw [ofWords?, hd]
    exact ⟨_, rfl⟩

/-- A day is a time phrase by itself. -/
lemma isSome_ofWords?_of_dayPhrase (h : DayPhrase (" ".intercalate d).toList day) :
    (ofWords? d).isSome = true := by
  obtain ⟨hour, hd⟩ := exists_ofWords?_of_dayPhrase h
  rw [hd, Option.isSome_some]

/-! ## What follows a day -/

/-- A day with a clock time behind it is the day at this time. -/
lemma ofTimeWords?_ofDay_append (day : Day) (hour minute : ℕ) :
    ofTimeWords? (ofDay day ++ [atTime, clock hour minute]) = some ⟨day, hour, minute⟩ := by
  cases day <;> rfl

/-- A day with `at` behind it waits for a clock time. -/
lemma awaitsWord_ofDay_append (day : Day) : awaitsWord (ofDay day ++ [atTime]) = true := by
  cases day <;> rfl

/-- What follows `at` in a phrase is its clock time. -/
lemma eq_clock_of_atTime {a : List TimeWord} (h : ofTimeWords? (atTime :: a) = some t) :
    a = [clock t.hour t.minute] := by
  generalize hphrase : atTime :: a = phrase at h
  unfold ofTimeWords? at h
  split at h <;> cases h <;> cases hphrase
  rfl

/-- What makes a time phrase with `at` in front is a clock time. -/
lemma ofWords_at_of_ofWords? (h : ofWords? ["at", x] = some t) :
    ofWords ["at", x] = [atTime, clock t.hour t.minute] := by
  have hat : ofWords ["at"] = [atTime] := by decide
  have happend : ofWords ["at", x] = atTime :: ofWords [x] := by
    rw [← List.singleton_append, ofWords_append, hat, List.singleton_append]
  rw [ofWords?, happend] at h
  rw [happend, eq_clock_of_atTime h]

/-- Nothing follows the clock time of a phrase. -/
lemma eq_nil_of_clock_append (hws : (ofWords? ws).isSome = true)
    (hvs : ofWords vs = [atTime, clock hour minute])
    (h : (ofWords? (ws ++ (vs ++ more))).isSome = true) : more = [] := by
  have hne : vs ≠ [] := by
    rintro rfl
    cases hvs
  obtain ⟨hour', minute', heq⟩ :=
    ofWords_eq_clock_of_append (List.append_ne_nil_of_left_ne_nil hne more) hws h
  rw [ofWords_append, hvs] at heq
  exact ofWords_eq_nil_iff.1 (List.cons.inj (List.cons.inj heq).2).2

/-! ## Days before a clock time -/

variable (hd : DayPhrase (" ".intercalate d).toList day) (hx : ofWords? ["at", x] = some t)

section Small

variable (hsmall : (" ".intercalate d).toList.map Char.toLower = (" ".intercalate d).toList)

include hd hsmall in
/-- A day in small letters is read as the day. -/
lemma ofWords_of_small : ofWords d = ofDay day := by
  rw [ofWords_eq_ofText (ne_nil_of_dayPhrase hd)]
  exact ofText_of_dayText (dayText_iff.2 ⟨hd, hsmall⟩)

include hd hx hsmall in
/-- A day in small letters goes on with a clock time. -/
lemma ofWords?_of_small : ofWords? (d ++ ["at", x]) = some ⟨day, t.hour, t.minute⟩ := by
  rw [ofWords?, ofWords_append, ofWords_of_small hd hsmall, ofWords_at_of_ofWords? hx]
  exact ofTimeWords?_ofDay_append day t.hour t.minute

include hd hx hsmall in
/-- A time slot takes the clock time together with the day. -/
lemma segment?_of_small (key : String) (more : List String) :
    (Slot.time key).segment? (d ++ "at" :: x :: more) = some (d ++ ["at", x], more) := by
  have hphrase := ofWords?_of_small hd hx hsmall
  have happend : d ++ "at" :: x :: more = d ++ ["at", x] ++ more := by simp
  rw [Slot.segment?_eq_some_iff_isLongestRun rfl, happend]
  refine ⟨.append (ne_nil_of_ofWords? hphrase) ?_ fun rest hne _ hrest => hne ?_, rfl⟩
  · rw [Slot.isComplete, hphrase, Option.isSome_some]
  · rw [Slot.isComplete, List.append_assoc] at hrest
    exact eq_nil_of_clock_append (isSome_ofWords?_of_dayPhrase hd) (ofWords_at_of_ofWords? hx) hrest

end Small

section Capital

variable (hcapital : (" ".intercalate d).toList.map Char.toLower ≠ (" ".intercalate d).toList)

include hd hcapital in
/-- A day with a capital letter is a weekday whose name is not in small letters. -/
lemma exists_ofWords_of_capital : ∃ w, ofWords d = [onDay, weekday w false] := by
  rw [ofWords_eq_ofText (ne_nil_of_dayPhrase hd)]
  obtain ⟨w, -, hw⟩ := ofText_of_dayPhrase_capital hd hcapital
  exact ⟨w, hw⟩

include hd hcapital in
/-- With a capital letter a day is all of the phrase. -/
lemma ofWords?_append_of_capital {more : List String} (hmore : more ≠ []) :
    ofWords? (d ++ more) = none := by
  obtain ⟨w, hw⟩ := exists_ofWords_of_capital hd hcapital
  by_contra hsome
  rw [← ne_eq, Option.ne_none_iff_isSome] at hsome
  obtain ⟨hour, minute, hclock⟩ :=
    ofWords_eq_clock_of_append hmore (isSome_ofWords?_of_dayPhrase hd) hsome
  rw [ofWords?, ofWords_append, hw, hclock] at hsome
  cases hsome

include hd hcapital in
/-- A time slot takes such a day alone. -/
lemma segment?_of_capital (key : String) (more : List String) :
    (Slot.time key).segment? (d ++ more) = some (d, more) := by
  rw [Slot.segment?_eq_some_iff_isLongestRun rfl]
  refine ⟨.append (ne_nil_of_dayPhrase hd) (isSome_ofWords?_of_dayPhrase hd)
    fun rest hne _ hrest => ?_, rfl⟩
  rw [Slot.isComplete, ofWords?_append_of_capital hd hcapital hne] at hrest
  cases hrest

end Capital

/-- **Days before a clock time.** Let some words be a phrase for a day, and a word be a clock time
after `at`. When the day is spelled in small letters, the words together are a phrase for the clock
time of that day, without the clock time they wait for it, and a time slot takes them all, whatever
follows. When the day has a capital letter, the words together are no phrase, nothing is waited for,
and a time slot takes the day alone: the clock time is left over.

**Proof sketch.** A phrase for a day in small letters is one of those that may stand before a clock
time (`dayText_iff`). A capital letter can stand in the name of a weekday only, and a weekday with
one is not plain (`TimeWord.ofText_of_dayPhrase_capital`); whatever goes on to a longer phrase goes
on with a clock time, and none of the phrases has such a weekday there. -/
theorem dayPhrase_at_clock {d : List String} {x : String} {day : Day} {t : RelativeTime}
    (hd : DayPhrase (" ".intercalate d).toList day) (hx : ofWords? ["at", x] = some t) :
    ((" ".intercalate d).toList.map Char.toLower = (" ".intercalate d).toList →
      ofWords? (d ++ ["at", x]) = some ⟨day, t.hour, t.minute⟩ ∧
      isBegun (d ++ ["at"]) = true ∧
      ∀ key more, (Slot.time key).segment? (d ++ "at" :: x :: more) =
        some (d ++ ["at", x], more)) ∧
    ((" ".intercalate d).toList.map Char.toLower ≠ (" ".intercalate d).toList →
      ofWords? (d ++ ["at", x]) = none ∧
      isBegun (d ++ ["at"]) = false ∧
      ∀ key more, (Slot.time key).segment? (d ++ "at" :: x :: more) =
        some (d, "at" :: x :: more)) := by
  have hat : ofWords ["at"] = [atTime] := by decide
  constructor
  · intro hsmall
    refine ⟨ofWords?_of_small hd hx hsmall, ?_, segment?_of_small hd hx hsmall⟩
    rw [isBegun, ofWords_append, ofWords_of_small hd hsmall, hat]
    exact awaitsWord_ofDay_append day
  · intro hcapital
    refine ⟨ofWords?_append_of_capital hd hcapital (List.cons_ne_nil _ _), ?_,
      fun key more => segment?_of_capital hd hcapital key _⟩
    obtain ⟨w, hw⟩ := exists_ofWords_of_capital hd hcapital
    rw [isBegun, ofWords_append, hw, hat]
    rfl

/-- In small letters a weekday goes on with a clock time, whatever comes after that. -/
theorem dayPhrase_at_clock_small :
    DayPhrase (" ".intercalate ["on", "friday"]).toList (.next .friday) ∧
      ofWords? ["at", "7:15pm"] = some ⟨.today, 19, 15⟩ ∧
      ofWords? ["on", "friday", "at", "7:15pm"] = some ⟨.next .friday, 19, 15⟩ ∧
      ∀ key more, (Slot.time key).segment? ("on" :: "friday" :: "at" :: "7:15pm" :: more) =
        some (["on", "friday", "at", "7:15pm"], more) := by
  have hd : DayPhrase (" ".intercalate ["on", "friday"]).toList (.next .friday) :=
    @DayPhrase.weekday "friday".toList .friday (.inl (by decide))
  have hx : ofWords? ["at", "7:15pm"] = some ⟨.today, 19, 15⟩ := by decide
  obtain ⟨hphrase, -, hsegment⟩ := (dayPhrase_at_clock hd hx).1 (by decide)
  exact ⟨hd, hx, hphrase, hsegment⟩

/-- With a capital letter a weekday is a day, but its clock time is dropped: `on Friday at 5pm` is no
phrase, `on Friday at` waits for nothing, and a time slot leaves `at 5pm` over. -/
theorem dayPhrase_at_clock_capital :
    DayPhrase (" ".intercalate ["on", "Friday"]).toList (.next .friday) ∧
      ofWords? ["at", "5pm"] = some ⟨.today, 17, 0⟩ ∧
      ofWords? (["on", "Friday"] ++ ["at", "5pm"]) = none ∧
      isBegun (["on", "Friday"] ++ ["at"]) = false ∧
      (Slot.time "when").segment? ["on", "Friday", "at", "5pm"] =
        some (["on", "Friday"], ["at", "5pm"]) :=
  ⟨@DayPhrase.weekday "Friday".toList .friday (.inl (by decide)), by decide, by decide, by decide,
    by decide⟩

end RelativeTime

end Utterance
