import Mathlib.Data.List.TakeWhile
import Utterance.Proofs.TimePhrases
import Utterance.Text.Digits.Lemmas

set_option autoImplicit false

/-!
# The grammar of time phrases

Which texts are time phrases, said on the text as a whole: the words given are joined by single
spaces, and where one word ends and the next begins is forgotten. A word may hold spaces of its own,
so the words of a phrase need not be the words given.

## Main definitions

* `Utterance.ClockText`: the clock times, such as `5:30pm`.
* `Utterance.DayText`: the days that may stand before a clock time.
* `Utterance.PhraseText`: the time phrases, with the times they name.

## Main results

* `Utterance.TimeWord.clockTime?_eq_some_iff`: the clock times.
* `Utterance.RelativeTime.ofWords?_iff_phraseText`: the time phrases, and the times that have one.
-/

namespace Utterance

open Calendar Text

/-! ## The grammar -/

/-- The digits of an hour: one or two, of value 23 at most. A zero may stand in front. -/
structure HourText (digits : List Char) : Prop where
  /-- There are one or two digits. -/
  length_eq : digits.length = 1 ∨ digits.length = 2
  /-- They are digits. -/
  isDigit : ∀ c ∈ digits, c.isDigit = true
  /-- Their value is an hour. -/
  le : numeral digits ≤ 23

/-- The minutes after the hour: none, or two digits after a colon, of value 59 at most. -/
inductive MinuteText : List Char → ℕ → Prop where
  /-- Without minutes the hour is a full one. -/
  | none : MinuteText [] 0
  /-- Two digits after a colon. -/
  | digits {a b : Char} : a.isDigit = true → b.isDigit = true → numeral [a, b] ≤ 59 →
      MinuteText [':', a, b] (numeral [a, b])

/-- The hours after midnight of an hour in the afternoon: twelve more for the hours from 1 to 12. -/
def afternoonHour (hour : ℕ) : ℕ := if 1 ≤ hour ∧ hour ≤ 12 then hour + 12 else hour

/-- The clock times, with hour and minute. -/
inductive ClockText : List Char → ℕ → ℕ → Prop where
  /-- A time before noon. -/
  | am {digits minutes : List Char} {minute : ℕ} : HourText digits → MinuteText minutes minute →
      ClockText (digits ++ minutes ++ "am".toList) (numeral digits) minute
  /-- A time after noon. -/
  | pm {digits minutes : List Char} {minute : ℕ} : HourText digits → MinuteText minutes minute →
      ClockText (digits ++ minutes ++ "pm".toList) (afternoonHour (numeral digits)) minute

/-- A name of a weekday, of three letters or in full. -/
def IsNameOf (name : List Char) (w : Weekday) : Prop :=
  name = w.name.toList ∨ name = w.shortName.toList

/-- Whether a text names a weekday is read off the text. -/
instance (name : List Char) (w : Weekday) : Decidable (IsNameOf name w) :=
  inferInstanceAs (Decidable (_ ∨ _))

/-- The days that may stand before a clock time. -/
inductive DayText : List Char → Day → Prop where
  /-- The day itself. -/
  | today : DayText "today".toList .today
  /-- The day after. -/
  | tomorrow : DayText "tomorrow".toList .tomorrow
  /-- A weekday, in lower case. -/
  | weekday {name : List Char} {w : Weekday} : IsNameOf name w →
      DayText ("on ".toList ++ name) (.next w)

/-- The time phrases, with the times they name. -/
inductive PhraseText : List Char → RelativeTime → Prop where
  /-- The day itself. -/
  | today : PhraseText "today".toList ⟨.today, 14, 0⟩
  /-- Its evening. -/
  | tonight : PhraseText "tonight".toList ⟨.today, 18, 0⟩
  /-- Its middle. -/
  | noon : PhraseText "noon".toList ⟨.today, 12, 0⟩
  /-- The day after. -/
  | tomorrow : PhraseText "tomorrow".toList ⟨.tomorrow, 9, 0⟩
  /-- A weekday without a clock time, with small or capital letters. -/
  | weekday {name : List Char} {w : Weekday} : IsNameOf (name.map Char.toLower) w →
      PhraseText ("on ".toList ++ name) ⟨.next w, 14, 0⟩
  /-- A clock time of the day itself. -/
  | clock {clock : List Char} {hour minute : ℕ} : ClockText clock hour minute →
      PhraseText ("at ".toList ++ clock) ⟨.today, hour, minute⟩
  /-- A clock time of another day. -/
  | dayClock {text clock : List Char} {day : Day} {hour minute : ℕ} : DayText text day →
      ClockText clock hour minute →
      PhraseText (text ++ " at ".toList ++ clock) ⟨day, hour, minute⟩

/-! ## Clock times -/

namespace TimeWord

variable {cs digits minutes ending : List Char} {hour minute : ℕ} {afternoon : Bool}

/-- The endings of clock times are `am` and `pm`. -/
lemma afternoon?_eq_some_iff : afternoon? ending = some afternoon ↔
    ending = "am".toList ∧ afternoon = false ∨ ending = "pm".toList ∧ afternoon = true := by
  constructor
  · intro h
    unfold afternoon? at h
    split at h
    · exact .inl ⟨rfl, (Option.some.inj h).symm⟩
    · exact .inr ⟨rfl, (Option.some.inj h).symm⟩
    · cases h
  · rintro (⟨rfl, rfl⟩ | ⟨rfl, rfl⟩) <;> rfl

/-- The digits of an hour are found in front of what is no digit. -/
lemma takeWhile_isDigit_append (h : HourText digits) {c : Char} {rest : List Char}
    (hc : c.isDigit = false) : ((digits ++ c :: rest).take 2).takeWhile Char.isDigit = digits := by
  obtain hone | htwo := h.length_eq
  · obtain ⟨a, rfl⟩ := List.length_eq_one_iff.1 hone
    simp [h.isDigit a, hc]
  · rw [List.take_left' htwo, List.takeWhile_eq_self_iff]
    exact h.isDigit

/-- What follows the digits of an hour begins with no digit. -/
lemma exists_cons_append (h : MinuteText minutes minute)
    (hending : afternoon? ending = some afternoon) :
    ∃ c rest, minutes ++ ending = c :: rest ∧ c.isDigit = false := by
  cases h with
  | none =>
    obtain ⟨rfl, -⟩ | ⟨rfl, -⟩ := afternoon?_eq_some_iff.1 hending
    · exact ⟨_, _, rfl, by decide⟩
    · exact ⟨_, _, rfl, by decide⟩
  | digits => exact ⟨':', _, rfl, by decide⟩

/-- The minute of a clock time is read up to its ending. -/
lemma minutePart_append (h : MinuteText minutes minute)
    (hending : afternoon? ending = some afternoon) :
    minutePart (minutes ++ ending) = some (minute, ending) := by
  cases h with
  | none => obtain ⟨rfl, -⟩ | ⟨rfl, -⟩ := afternoon?_eq_some_iff.1 hending <;> rfl
  | digits ha hb => simp [minutePart, ha, hb]

/-- An hour is moved in the afternoon only. -/
lemma ite_afternoon (afternoon : Bool) (hour minute : ℕ) :
    (if afternoon = true ∧ 1 ≤ hour ∧ hour ≤ 12 then some (hour + 12, minute)
      else some (hour, minute)) =
    some (if afternoon then afternoonHour hour else hour, minute) := by
  unfold afternoonHour
  cases afternoon <;> by_cases h : 1 ≤ hour ∧ hour ≤ 12 <;> simp [h]

/-- A clock time is read, with its hour and its minute. -/
lemma clockTime?_append (hdigits : HourText digits) (hminutes : MinuteText minutes minute)
    (hending : afternoon? ending = some afternoon) :
    clockTime? (digits ++ minutes ++ ending) =
      some (if afternoon then afternoonHour (numeral digits) else numeral digits, minute) := by
  obtain ⟨c, rest, hrest, hc⟩ := exists_cons_append hminutes hending
  have hfront : ((digits ++ (minutes ++ ending)).take 2).takeWhile Char.isDigit = digits := by
    rw [hrest]
    exact takeWhile_isDigit_append hdigits hc
  have hne : digits ≠ [] := by
    rintro rfl
    simpa using hdigits.length_eq
  have hle : minute ≤ 59 := by
    cases hminutes with
    | none => decide
    | digits _ _ hle => exact hle
  have hbounds : ¬ (digits = [] ∨ 23 < numeral digits ∨ 59 < minute) := by
    have := hdigits.le
    simp only [hne, false_or]
    omega
  rw [List.append_assoc]
  simp only [clockTime?, hfront, List.drop_left, minutePart_append hminutes hending, hending,
    Option.bind_eq_bind, Option.bind_some, if_neg hbounds, ite_afternoon]

/-- Minutes that are read stand in front of what is left. -/
lemma exists_minuteText_of_minutePart (h : minutePart cs = some (minute, ending))
    (hle : minute ≤ 59) : ∃ minutes, cs = minutes ++ ending ∧ MinuteText minutes minute := by
  unfold minutePart at h
  split at h
  · rename_i a b rest
    split at h
    · rename_i hdigits
      rw [Bool.and_eq_true] at hdigits
      cases h
      exact ⟨[':', a, b], rfl, .digits hdigits.1 hdigits.2 hle⟩
    · cases h
  · cases h
    exact ⟨[], rfl, .none⟩

/-- The digits in front of a text, two at most. -/
lemma hourText_takeWhile (hne : (cs.take 2).takeWhile Char.isDigit ≠ [])
    (hle : numeral ((cs.take 2).takeWhile Char.isDigit) ≤ 23) :
    HourText ((cs.take 2).takeWhile Char.isDigit) where
  length_eq := by
    have hpos := List.length_pos_iff.2 hne
    have htwo := (List.takeWhile_prefix (l := cs.take 2) Char.isDigit).length_le
    rw [List.length_take] at htwo
    omega
  isDigit c hc := List.mem_takeWhile_imp hc
  le := hle

/-- **Clock times** are read exactly from their texts. -/
theorem clockTime?_eq_some_iff : clockTime? cs = some (hour, minute) ↔ ClockText cs hour minute := by
  constructor
  · intro h
    simp only [clockTime?, Option.bind_eq_bind, Option.bind_eq_some_iff] at h
    obtain ⟨⟨minute', ending⟩, hminute, afternoon, hending, h⟩ := h
    generalize hdigits : (cs.take 2).takeWhile Char.isDigit = digits at hminute h
    have hprefix : digits ++ cs.drop digits.length = cs := by
      rw [← List.prefix_iff_eq_append, ← hdigits]
      exact (List.takeWhile_prefix _).trans (List.take_prefix _ _)
    split at h
    · cases h
    · rename_i hbounds
      simp only [not_or, Nat.not_lt] at hbounds
      obtain ⟨minutes, hrest, hminutes⟩ := exists_minuteText_of_minutePart hminute hbounds.2.2
      have hhour : HourText digits := by
        subst hdigits
        exact hourText_takeWhile hbounds.1 hbounds.2.1
      rw [ite_afternoon, Option.some.injEq, Prod.mk.injEq] at h
      obtain ⟨rfl, rfl⟩ := h
      rw [← hprefix, hrest, ← List.append_assoc]
      obtain ⟨rfl, rfl⟩ | ⟨rfl, rfl⟩ := afternoon?_eq_some_iff.1 hending
      · exact .am hhour hminutes
      · exact .pm hhour hminutes
  · intro h
    cases h with
    | am hdigits hminutes =>
      exact clockTime?_append hdigits hminutes (rfl : afternoon? "am".toList = some false)
    | pm hdigits hminutes =>
      exact clockTime?_append hdigits hminutes (rfl : afternoon? "pm".toList = some true)

/-! ## The meanings of words -/

variable {w : Weekday} {plain : Bool}

/-- A keyword has a meaning of its own, which no other word has. -/
lemma ofChars_eq_iff_of_mem_keywords {s : String} {word : TimeWord} (h : (s, word) ∈ keywords) :
    ofChars cs = word ↔ cs = s.toList := by
  constructor
  · rintro rfl
    have hunique : ∀ k ∈ keywords, ∀ k' ∈ keywords, k.2 = k'.2 → k.1 = k'.1 := by decide
    rcases ofChars_cases cs with hmem | ⟨w, -, hw⟩ | ⟨hour, minute, -, hclock⟩ | hother
    · have hsame : String.ofList cs = s := hunique _ hmem _ h rfl
      rw [← hsame, String.toList_ofList]
    · simp [hw, keywords] at h
    · simp [hclock, keywords] at h
    · simp [hother, keywords] at h
  · rintro rfl
    have hmeaning : ∀ k ∈ keywords, ofChars k.1.toList = k.2 := by decide
    exact hmeaning (s, word) h

/-- What is no keyword is not found among them. -/
lemma lookup_keywords_eq_none (h : ∀ k ∈ keywords, cs ≠ k.1.toList) :
    keywords.lookup (String.ofList cs) = none := by
  rw [List.lookup_eq_none_iff]
  intro k hk
  rw [bne_iff_ne]
  intro heq
  exact h k hk (by rw [← heq, String.toList_ofList])

/-- A weekday is found by its names and by nothing else. -/
lemma ofName?_ofList_eq_some_iff :
    Weekday.ofName? (String.ofList cs) = some w ↔ IsNameOf cs w := by
  rw [Weekday.ofName?_eq_some_iff, IsNameOf, ← String.toList_inj, ← String.toList_inj,
    String.toList_ofList]

/-- **Weekdays** are the words that are a name of one in lower case. -/
theorem ofChars_eq_weekday_iff : ofChars cs = weekday w plain ↔
    IsNameOf (cs.map Char.toLower) w ∧ plain = (cs == cs.map Char.toLower) := by
  constructor
  · intro h
    rcases ofChars_cases cs with hmem | ⟨w', hname, hw⟩ | ⟨hour, minute, -, hclock⟩ | hother
    · simp [h, keywords] at hmem
    · rw [h, weekday.injEq] at hw
      obtain ⟨rfl, rfl⟩ := hw
      exact ⟨ofName?_ofList_eq_some_iff.1 hname, rfl⟩
    · simp [h] at hclock
    · simp [h] at hother
  · rintro ⟨hname, rfl⟩
    have hkeyword : ∀ k ∈ keywords, ∀ w ∈ Weekday.all,
        ¬ IsNameOf (k.1.toList.map Char.toLower) w := by decide
    have hlookup : keywords.lookup (String.ofList cs) = none := by
      refine lookup_keywords_eq_none fun k hk heq => ?_
      rw [heq] at hname
      exact hkeyword k hk w w.mem_all hname
    simp only [ofChars, hlookup, ofName?_ofList_eq_some_iff.2 hname]

/-- A name of a weekday begins with no digit. -/
lemma isDigit_headD_of_isNameOf (h : IsNameOf cs w) : (cs.headD ' ').isDigit = false := by
  have hletter : ∀ w ∈ Weekday.all, (w.name.toList.headD ' ').isDigit = false ∧
      (w.shortName.toList.headD ' ').isDigit = false := by decide
  obtain rfl | rfl := h
  · exact (hletter w w.mem_all).1
  · exact (hletter w w.mem_all).2

/-- A digit has no lower case. -/
lemma toLower_of_isDigit {c : Char} (h : c.isDigit = true) : c.toLower = c := by
  obtain ⟨-, hnine⟩ := Char.isDigit_iff_toNat.1 h
  refine dif_neg fun hcapital => ?_
  have hle : 'A'.toNat ≤ c.toNat := hcapital.1
  exact absurd (le_trans hle hnine) (by decide)

/-- A clock time begins with a digit. -/
lemma exists_digit_cons_of_clockText (h : ClockText cs hour minute) :
    ∃ c rest, cs = c :: rest ∧ c.isDigit = true := by
  have hfront {digits : List Char} (hdigits : HourText digits) (rest : List Char) :
      ∃ c rest', digits ++ rest = c :: rest' ∧ c.isDigit = true := by
    obtain ⟨c, more, rfl⟩ : ∃ c more, digits = c :: more := by
      refine List.exists_cons_of_ne_nil ?_
      rintro rfl
      simpa using hdigits.length_eq
    exact ⟨c, more ++ rest, rfl, hdigits.isDigit c List.mem_cons_self⟩
  cases h with
  | am hdigits => simpa only [List.append_assoc] using hfront hdigits _
  | pm hdigits => simpa only [List.append_assoc] using hfront hdigits _

/-- **Clock times** are the words that are read as one. -/
theorem ofChars_eq_clock_iff : ofChars cs = clock hour minute ↔ ClockText cs hour minute := by
  constructor
  · intro h
    rcases ofChars_cases cs with hmem | ⟨w, -, hw⟩ | ⟨hour', minute', hclock, heq⟩ | hother
    · simp [h, keywords] at hmem
    · simp [h] at hw
    · rw [h, clock.injEq] at heq
      obtain ⟨rfl, rfl⟩ := heq
      exact clockTime?_eq_some_iff.1 hclock
    · simp [h] at hother
  · intro h
    obtain ⟨c, rest, rfl, hc⟩ := exists_digit_cons_of_clockText h
    -- neither a keyword nor a weekday begins with a digit
    have hlookup : keywords.lookup (String.ofList (c :: rest)) = none := by
      refine lookup_keywords_eq_none fun k hk heq => ?_
      have hletter : ∀ k ∈ keywords, (k.1.toList.headD ' ').isDigit = false := by decide
      have := hletter k hk
      rw [← heq, List.headD_cons, hc] at this
      cases this
    have hname : Weekday.ofName? (String.ofList ((c :: rest).map Char.toLower)) = none := by
      rw [Option.eq_none_iff_forall_ne_some]
      intro w hw
      rw [ofName?_ofList_eq_some_iff, List.map_cons, toLower_of_isDigit hc] at hw
      have := isDigit_headD_of_isNameOf hw
      rw [List.headD_cons, hc] at this
      cases this
    simp only [ofChars, hlookup, hname, clockTime?_eq_some_iff.2 h]

/-! ## The meanings of a text -/

/-- The meanings of the words between the spaces of a text. -/
def ofText (text : List Char) : List TimeWord := (text.splitOn ' ').map ofChars

/-- A space parts the words of a phrase. -/
lemma ofText_append_space (front rest : List Char) :
    ofText (front ++ ' ' :: rest) = ofText front ++ ofText rest := by
  rw [ofText, List.splitOn_append_cons_self, List.map_append]
  rfl

/-- A text without spaces is one word. -/
lemma ofText_of_notMem (h : ' ' ∉ cs) : ofText cs = [ofChars cs] := by
  rw [ofText, List.splitOn_eq_singleton h]
  rfl

/-- A keyword in front of a space adds its meaning. -/
lemma ofText_keyword_space {s : String} {word : TimeWord} (h : (s, word) ∈ keywords)
    (hspace : ' ' ∉ s.toList) (rest : List Char) :
    ofText (s.toList ++ ' ' :: rest) = word :: ofText rest := by
  rw [ofText_append_space, ofText_of_notMem hspace, (ofChars_eq_iff_of_mem_keywords h).2 rfl]
  rfl

/-- A text with one meaning is one word with that meaning. -/
lemma ofChars_of_ofText_eq_singleton {word : TimeWord} (h : ofText cs = [word]) :
    ofChars cs = word := by
  by_cases hspace : ' ' ∈ cs
  · obtain ⟨front, tail, rfl, hfront⟩ := List.eq_append_cons_of_mem hspace
    rw [ofText_append_space, ofText_of_notMem hfront, List.singleton_append, List.cons.injEq,
      ofText, List.map_eq_nil_iff] at h
    exact absurd h.2 (List.splitOn_ne_nil _ _)
  · rw [ofText_of_notMem hspace] at h
    exact List.singleton_inj.1 h

/-- A text with more meanings has a word with the first of them in front of a space. -/
lemma exists_of_ofText_eq_cons_cons {word word' : TimeWord} {rest : List TimeWord}
    (h : ofText cs = word :: word' :: rest) :
    ∃ front tail, cs = front ++ ' ' :: tail ∧ ofChars front = word ∧
      ofText tail = word' :: rest := by
  by_cases hspace : ' ' ∈ cs
  · obtain ⟨front, tail, rfl, hfront⟩ := List.eq_append_cons_of_mem hspace
    rw [ofText_append_space, ofText_of_notMem hfront, List.singleton_append, List.cons.injEq] at h
    exact ⟨front, tail, rfl, h⟩
  · rw [ofText_of_notMem hspace] at h
    cases h

/-- Words with spaces between them have the meanings of their text, wherever the spaces are. -/
lemma ofWords_eq_ofText {ws : List String} (hws : ws ≠ []) :
    ofWords ws = ofText (" ".intercalate ws).toList := by
  have hspace : " ".toList = [' '] := rfl
  rw [String.toList_intercalate, hspace]
  induction ws with
  | nil => contradiction
  | cons w ws ih =>
    by_cases hnil : ws = []
    · subst hnil
      simp [ofWords_cons, ofText]
    · rw [List.map_cons, List.intercalate_cons_of_ne_nil (by simpa using hnil), List.append_assoc,
        List.singleton_append, ofText_append_space, ← ih hnil]
      rfl

/-- A clock time holds no space. -/
lemma space_notMem_of_clockText (h : ClockText cs hour minute) : ' ' ∉ cs := by
  have hdigit {digits : List Char} (hdigits : HourText digits) : ' ' ∉ digits :=
    fun hmem => absurd (hdigits.isDigit _ hmem) (by decide)
  have hminute {minutes : List Char} {minute : ℕ} (hminutes : MinuteText minutes minute) :
      ' ' ∉ minutes := by
    cases hminutes with
    | none => simp
    | digits ha hb =>
      simp only [List.mem_cons, List.not_mem_nil, or_false, not_or]
      refine ⟨by decide, ?_, ?_⟩
      · rintro rfl
        exact absurd ha (by decide)
      · rintro rfl
        exact absurd hb (by decide)
  cases h with
  | am hdigits hminutes => simp [hdigit hdigits, hminute hminutes]
  | pm hdigits hminutes => simp [hdigit hdigits, hminute hminutes]

/-- A name of a weekday holds no space, in whatever letters. -/
lemma space_notMem_of_isNameOf (h : IsNameOf (cs.map Char.toLower) w) : ' ' ∉ cs := by
  intro hmem
  have hsmall : ' ' ∈ cs.map Char.toLower := List.mem_map.2 ⟨' ', hmem, rfl⟩
  have hnames : ∀ w ∈ Weekday.all, ' ' ∉ w.name.toList ∧ ' ' ∉ w.shortName.toList := by decide
  obtain hfull | hshort := h
  · exact (hnames w w.mem_all).1 (hfull ▸ hsmall)
  · exact (hnames w w.mem_all).2 (hshort ▸ hsmall)

/-- A name of a weekday is in lower case. -/
lemma map_toLower_of_isNameOf (h : IsNameOf cs w) : cs.map Char.toLower = cs := by
  have hnames : ∀ w ∈ Weekday.all, w.name.toList.map Char.toLower = w.name.toList ∧
      w.shortName.toList.map Char.toLower = w.shortName.toList := by decide
  obtain rfl | rfl := h
  · exact (hnames w w.mem_all).1
  · exact (hnames w w.mem_all).2

/-- A clock time is one word. -/
lemma ofText_of_clockText (h : ClockText cs hour minute) : ofText cs = [clock hour minute] := by
  rw [ofText_of_notMem (space_notMem_of_clockText h), ofChars_eq_clock_iff.2 h]

/-- The name of a weekday is one word, which knows whether it was in small letters. -/
lemma ofText_of_isNameOf (h : IsNameOf (cs.map Char.toLower) w) :
    ofText cs = [weekday w (cs == cs.map Char.toLower)] := by
  rw [ofText_of_notMem (space_notMem_of_isNameOf h), ofChars_eq_weekday_iff.2 ⟨h, rfl⟩]

end TimeWord

/-! ## Phrases -/

namespace RelativeTime

open TimeWord

variable {text : List Char} {t : RelativeTime}

/-- A phrase of the grammar is read, with the time that it names. -/
theorem ofTimeWords?_of_phraseText (h : PhraseText text t) : ofTimeWords? (ofText text) = some t := by
  have hon (rest : List Char) : ofText ("on ".toList ++ rest) = onDay :: ofText rest :=
    ofText_keyword_space (s := "on") (by decide) (by decide) rest
  have hat (rest : List Char) : ofText ("at ".toList ++ rest) = atTime :: ofText rest :=
    ofText_keyword_space (s := "at") (by decide) (by decide) rest
  cases h with
  | today => rfl
  | tonight => rfl
  | noon => rfl
  | tomorrow => rfl
  | weekday hname =>
    rw [hon, ofText_of_isNameOf hname]
    rfl
  | clock hclock =>
    rw [hat, ofText_of_clockText hclock]
    rfl
  | dayClock hday hclock =>
    have hsplit (day clock : List Char) :
        day ++ " at ".toList ++ clock = day ++ ' ' :: ("at ".toList ++ clock) := by simp
    rw [hsplit, ofText_append_space, hat, ofText_of_clockText hclock]
    cases hday with
    | today => rfl
    | tomorrow => rfl
    | weekday hname =>
      have hsmall := map_toLower_of_isNameOf hname
      rw [← hsmall] at hname
      rw [hon, ofText_of_isNameOf hname, hsmall, beq_self_eq_true]
      rfl

/-- A single keyword is the text. -/
lemma eq_of_ofText_eq_keyword {s : String} {word : TimeWord} (hmem : (s, word) ∈ keywords)
    (h : ofText text = [word]) : text = s.toList :=
  (ofChars_eq_iff_of_mem_keywords hmem).1 (ofChars_of_ofText_eq_singleton h)

/-- A first keyword stands in front of the text. -/
lemma exists_of_ofText_eq_keyword {s : String} {word word' : TimeWord} {rest : List TimeWord}
    (hmem : (s, word) ∈ keywords) (h : ofText text = word :: word' :: rest) :
    ∃ tail, text = s.toList ++ ' ' :: tail ∧ ofText tail = word' :: rest := by
  obtain ⟨front, tail, rfl, hfront, htail⟩ := exists_of_ofText_eq_cons_cons h
  exact ⟨tail, by rw [(ofChars_eq_iff_of_mem_keywords hmem).1 hfront], htail⟩

/-- The text of `at` and a clock time. -/
lemma exists_of_ofText_eq_at_clock {hour minute : ℕ}
    (h : ofText text = [atTime, clock hour minute]) :
    ∃ clock, text = "at ".toList ++ clock ∧ ClockText clock hour minute := by
  obtain ⟨clock, rfl, hclock⟩ := exists_of_ofText_eq_keyword (s := "at") (by decide) h
  exact ⟨clock, rfl, ofChars_eq_clock_iff.1 (ofChars_of_ofText_eq_singleton hclock)⟩

/-- What is read as a time is a phrase of the grammar. -/
theorem phraseText_of_ofTimeWords? (h : ofTimeWords? (ofText text) = some t) :
    PhraseText text t := by
  unfold ofTimeWords? at h
  split at h <;> rename_i heq
  · cases h
    rw [eq_of_ofText_eq_keyword (s := "today") (by decide) heq]
    exact .today
  · cases h
    rw [eq_of_ofText_eq_keyword (s := "tonight") (by decide) heq]
    exact .tonight
  · cases h
    rw [eq_of_ofText_eq_keyword (s := "tomorrow") (by decide) heq]
    exact .tomorrow
  · cases h
    rw [eq_of_ofText_eq_keyword (s := "noon") (by decide) heq]
    exact .noon
  · cases h
    obtain ⟨name, rfl, hname⟩ := exists_of_ofText_eq_keyword (s := "on") (by decide) heq
    have hweekday := ofChars_eq_weekday_iff.1 (ofChars_of_ofText_eq_singleton hname)
    exact .weekday hweekday.1
  · cases h
    obtain ⟨clock, rfl, hclock⟩ := exists_of_ofText_eq_at_clock heq
    exact .clock hclock
  · cases h
    obtain ⟨tail, rfl, htail⟩ := exists_of_ofText_eq_keyword (s := "today") (by decide) heq
    obtain ⟨clock, rfl, hclock⟩ := exists_of_ofText_eq_at_clock htail
    exact .dayClock .today hclock
  · cases h
    obtain ⟨tail, rfl, htail⟩ := exists_of_ofText_eq_keyword (s := "tomorrow") (by decide) heq
    obtain ⟨clock, rfl, hclock⟩ := exists_of_ofText_eq_at_clock htail
    exact .dayClock .tomorrow hclock
  · cases h
    obtain ⟨tail, rfl, htail⟩ := exists_of_ofText_eq_keyword (s := "on") (by decide) heq
    obtain ⟨name, tail, rfl, hname, htail⟩ := exists_of_ofText_eq_cons_cons htail
    obtain ⟨clock, rfl, hclock⟩ := exists_of_ofText_eq_at_clock htail
    -- a weekday in lower case is a name itself
    obtain ⟨hname, hsmall⟩ := ofChars_eq_weekday_iff.1 hname
    rw [← beq_iff_eq.1 hsmall.symm] at hname
    have happend : "on".toList ++ ' ' :: (name ++ ' ' :: ("at ".toList ++ clock)) =
        "on ".toList ++ name ++ " at ".toList ++ clock := by simp
    rw [happend]
    exact .dayClock (.weekday hname) hclock
  · cases h

/-- Whether words are a time phrase is read off their text. -/
lemma ofWords?_eq_ofTimeWords? (ws : List String) :
    ofWords? ws = ofTimeWords? (ofText (" ".intercalate ws).toList) := by
  by_cases hws : ws = []
  · subst hws
    rfl
  · rw [ofWords?, ofWords_eq_ofText hws]

/-! ## The times that have a phrase -/

/-- Every minute of an hour can be written. -/
lemma minuteText_decimal {minute : ℕ} (h : minute ≤ 59) :
    MinuteText (':' :: decimal 2 minute) minute := by
  have hvalue : numeral (decimal 2 minute) = minute := numeral_decimal_of_lt (by omega)
  have hdigits : decimal 2 minute = [lastDigit (minute / 10), lastDigit minute] := rfl
  rw [hdigits] at hvalue ⊢
  have htext := MinuteText.digits (isDigit_lastDigit _) (isDigit_lastDigit _) (hvalue.trans_le h)
  rwa [hvalue] at htext

/-- Every hour up to 24 has a clock time, and 24 has `12pm`. -/
lemma exists_clockText {hour minute : ℕ} (hhour : hour ≤ 24) (hminute : minute ≤ 59) :
    ∃ clock, ClockText clock hour minute := by
  have hminutes := minuteText_decimal hminute
  by_cases hlast : hour = 24
  · subst hlast
    have hdigits : HourText ['1', '2'] := ⟨.inr rfl, by simp, by decide⟩
    exact ⟨_, .pm hdigits hminutes⟩
  · have hvalue : numeral (decimal 2 hour) = hour := numeral_decimal_of_lt (by omega)
    have hdigits : HourText (decimal 2 hour) :=
      ⟨.inr (length_decimal 2 hour), fun c hc => isDigit_of_mem_decimal hc, by omega⟩
    have hclock := ClockText.am hdigits hminutes
    rw [hvalue] at hclock
    exact ⟨_, hclock⟩

/-- Every day has a text. -/
lemma exists_dayText (day : Day) : ∃ text, DayText text day := by
  cases day with
  | today => exact ⟨_, .today⟩
  | tomorrow => exact ⟨_, .tomorrow⟩
  | next w => exact ⟨_, .weekday (.inl rfl)⟩

/-- **The grammar of time phrases.** Words are a time phrase exactly when their text, joined by
single spaces, is one of the grammar, and they name the time of that phrase. The times that have a
phrase are those of any day with an hour up to 24 and a minute up to 59.

**Proof sketch.** Each word between the spaces of the text has one meaning: keywords, weekdays and
clock times exclude each other (`TimeWord.ofChars_eq_weekday_iff`,
`TimeWord.ofChars_eq_clock_iff`). A phrase is known from the meanings of its words in both
directions, one case for each form of a phrase. -/
theorem ofWords?_iff_phraseText :
    (∀ (ws : List String) (t : RelativeTime),
      ofWords? ws = some t ↔ PhraseText (" ".intercalate ws).toList t) ∧
    ∀ t : RelativeTime, (∃ ws, ofWords? ws = some t) ↔ t.hour ≤ 24 ∧ t.minute ≤ 59 := by
  have hgrammar (ws : List String) (t : RelativeTime) :
      ofWords? ws = some t ↔ PhraseText (" ".intercalate ws).toList t := by
    rw [ofWords?_eq_ofTimeWords?]
    exact ⟨phraseText_of_ofTimeWords?, ofTimeWords?_of_phraseText⟩
  refine ⟨hgrammar, fun t => ⟨?_, ?_⟩⟩
  · rintro ⟨ws, hws⟩
    exact le_of_ofWords? hws
  · rintro ⟨hhour, hminute⟩
    obtain ⟨text, hday⟩ := exists_dayText t.day
    obtain ⟨clock, hclock⟩ := exists_clockText hhour hminute
    refine ⟨[String.ofList (text ++ " at ".toList ++ clock)], (hgrammar _ _).2 ?_⟩
    have hphrase := PhraseText.dayClock hday hclock
    simpa using hphrase

/-- A weekday with a capital letter names a day alone, not before a clock time; a space inside a
word counts, and so do two in a row. -/
example : ofWords? ["on Friday"] = some ⟨.next .friday, 14, 0⟩ ∧
    ofWords? ["on", "Friday", "at 5pm"] = none ∧
    ofWords? ["on fri", "at 05:30pm"] = some ⟨.next .friday, 17, 30⟩ ∧
    ofWords? ["on ", "friday"] = none := by decide

end RelativeTime

end Utterance
