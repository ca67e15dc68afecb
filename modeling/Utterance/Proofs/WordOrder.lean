import Utterance.Proofs.BuiltinCommands
import Utterance.Proofs.Sentences

set_option autoImplicit false

/-!
# The two orders of a reminder

The time of a reminder may stand in front of the sentence or at its end. In front it ends at
`remind`, whatever comes after; at the end it begins as early as it can, provided that some words
are left to be reminded of. So the two orders of the same words agree unless the time phrase goes on
to the left, into the words to be reminded of.

## Main definitions

* `Utterance.ExtendsLeft`: the time phrase goes on to the left.
* `Utterance.sentenceTimeFirst`, `Utterance.sentenceTimeLast`: the two orders.

## Main results

* `Utterance.ShortestTimeLast.text_eq_iff`: when all words before a time phrase are the text.
* `Utterance.Repertoire.recognize_orders_eq_iff`: when the two orders agree.
-/

namespace Utterance

open Calendar Text

/-- Some last words of the text, but not all words of it, make a time phrase together with
`phrase`. -/
def ExtendsLeft (text phrase : List String) : Prop :=
  ∃ front back t, text = front ++ back ∧ front ≠ [] ∧ back ≠ [] ∧
    RelativeTime.ofWords? (back ++ phrase) = some t

/-- The sentence with the time phrase in front. -/
def sentenceTimeFirst (text phrase : List String) : String :=
  " ".intercalate (phrase ++ (["remind", "me", "to"] ++ text))

/-- The sentence with the time phrase at the end. -/
def sentenceTimeLast (text phrase : List String) : String :=
  " ".intercalate (["remind", "me", "to"] ++ (text ++ phrase))

variable {ws text phrase text' phrase' : List String} {t t' : RelativeTime}

/-- The text and the phrase after it are determined by each other. -/
lemma TimeLast.append_eq (h : TimeLast ws text phrase t) (h' : TimeLast ws text' phrase' t') :
    text ++ phrase = text' ++ phrase' :=
  List.append_cancel_left (h.words_eq.symm.trans h'.words_eq)

/-- A time phrase that goes on to the left leaves a shorter text. -/
lemma TimeLast.exists_shorter (h : TimeLast ws text phrase t) (hextends : ExtendsLeft text phrase) :
    ∃ front back t', TimeLast ws front (back ++ phrase) t' ∧ front.length < text.length := by
  obtain ⟨front, back, t', rfl, hfront, hback, ht'⟩ := hextends
  refine ⟨front, back, t', ⟨hfront, ht', by rw [h.words_eq, List.append_assoc]⟩, ?_⟩
  have := List.length_pos_of_ne_nil hback
  rw [List.length_append]
  omega

/-- **All words before a time phrase at the end are the text** exactly when the phrase does not go
on to the left. -/
theorem ShortestTimeLast.text_eq_iff (hshortest : ShortestTimeLast ws text' phrase' t')
    (h : TimeLast ws text phrase t) : text' = text ↔ ¬ ExtendsLeft text phrase := by
  constructor
  · rintro rfl hextends
    obtain ⟨front, back, t'', hshorter, hlt⟩ := h.exists_shorter hextends
    exact absurd (hshortest.length_le hshorter) (Nat.not_le.2 hlt)
  · intro hnot
    -- the words between the shortest text and the given one begin the longer time phrase
    have hprefix : text' <+: text :=
      List.prefix_of_prefix_length_le (List.prefix_append text' phrase')
        (hshortest.append_eq h ▸ List.prefix_append text phrase) (hshortest.length_le h)
    obtain ⟨back, rfl⟩ := hprefix
    have hphrase : phrase' = back ++ phrase := by
      have happend := hshortest.append_eq h
      rw [List.append_assoc] at happend
      exact List.append_cancel_left happend
    by_cases hback : back = []
    · rw [hback, List.append_nil]
    · exact absurd ⟨text', back, t', rfl, hshortest.text_ne_nil, hback,
        hphrase ▸ hshortest.time_eq⟩ hnot

/-- The time and the text of a reminder can be read off its data. -/
lemma reminderData_inj {stamp stamp' : Timestamp} :
    reminderData stamp text = reminderData stamp' text' ↔ stamp = stamp' ∧ text = text' := by
  simp [reminderData, and_comm]

/-- The words `remind me to` are words in lower case. -/
lemma isWord_and_lowercase_of_mem_remindMeTo :
    ∀ w ∈ ["remind", "me", "to"], IsWord w ∧ lowercase w = w :=
  exists_words_lowercase_eq_iff.1 ⟨"remind me to", rfl⟩

namespace Repertoire

variable {now stamp : Timestamp}

/-- The time in front is recognized with all other words. -/
lemma recognize_sentenceTimeFirst (hnow : now.HasRoom)
    (hwords : ∀ w ∈ text ++ phrase, IsWord w ∧ lowercase w = w)
    (ht : RelativeTime.ofWords? phrase = some t) (hstamp : t.resolve? now = some stamp) :
    builtin.recognize (sentenceTimeFirst text phrase) now =
      .ok (some ⟨.reminder, reminderData stamp text⟩) := by
  rw [List.forall_mem_append] at hwords
  refine isReordering_builtin.recognize_timeFirst hnow ⟨ht, ?_⟩ hstamp
  refine words_lowercase_intercalate ?_
  simp only [List.forall_mem_append]
  exact ⟨hwords.2, isWord_and_lowercase_of_mem_remindMeTo, hwords.1⟩

/-- The time at the end is recognized with the shortest text before it. -/
lemma exists_recognize_sentenceTimeLast (hnow : now.HasRoom) (hne : text ≠ [])
    (hwords : ∀ w ∈ text ++ phrase, IsWord w ∧ lowercase w = w)
    (ht : RelativeTime.ofWords? phrase = some t) :
    ∃ text' phrase' t' stamp',
      ShortestTimeLast (["remind", "me", "to"] ++ (text ++ phrase)) text' phrase' t' ∧
      t'.resolve? now = some stamp' ∧
      builtin.recognize (sentenceTimeLast text phrase) now =
        .ok (some ⟨.reminder, reminderData stamp' text'⟩) := by
  have hlast : TimeLast (["remind", "me", "to"] ++ (text ++ phrase)) text phrase t :=
    ⟨hne, ht, rfl⟩
  obtain ⟨text', phrase', t', hshortest⟩ := hlast.exists_shortest
  obtain ⟨stamp', hstamp'⟩ := RelativeTime.exists_resolve?_of_ofWords? hnow hshortest.time_eq
  have hsentence : words (lowercase (sentenceTimeLast text phrase)) =
      ["remind", "me", "to"] ++ (text ++ phrase) := by
    refine words_lowercase_intercalate ?_
    rw [List.forall_mem_append]
    exact ⟨isWord_and_lowercase_of_mem_remindMeTo, hwords⟩
  refine ⟨text', phrase', t', stamp', hshortest, hstamp', ?_⟩
  rw [← hsentence] at hshortest
  exact isReordering_builtin.recognize_timeLast hnow hshortest hstamp'

/-- **When the two orders of a reminder agree.** Some words to be reminded of and a time phrase are
recognized as a reminder in either order. The two recognitions are equal exactly when the time
phrase does not go on to the left; it may go on over all of the words, since then none would be left
to be reminded of.

**Proof sketch.** The time in front is the given phrase. The time at the end is the longest one that
leaves some words before it, so its text is all of the words unless the phrase goes on to the left
(`ShortestTimeLast.text_eq_iff`). -/
theorem recognize_orders_eq_iff (hne : text ≠ []) (ht : RelativeTime.ofWords? phrase = some t)
    (hwords : ∀ w ∈ text ++ phrase, IsWord w ∧ lowercase w = w) (hnow : now.HasRoom) :
    ∃ first last, builtin.recognize (sentenceTimeFirst text phrase) now = .ok (some first) ∧
      builtin.recognize (sentenceTimeLast text phrase) now = .ok (some last) ∧
      first.command = .reminder ∧ last.command = .reminder ∧
      (first = last ↔ ¬ ExtendsLeft text phrase) := by
  obtain ⟨stamp, hstamp⟩ := RelativeTime.exists_resolve?_of_ofWords? hnow ht
  obtain ⟨text', phrase', t', stamp', hshortest, hstamp', hlast⟩ :=
    exists_recognize_sentenceTimeLast hnow hne hwords ht
  refine ⟨_, _, recognize_sentenceTimeFirst hnow hwords ht hstamp, hlast, rfl, rfl, ?_⟩
  have hgiven : TimeLast (["remind", "me", "to"] ++ (text ++ phrase)) text phrase t :=
    ⟨hne, ht, rfl⟩
  rw [← hshortest.text_eq_iff hgiven, Recognition.mk.injEq, reminderData_inj]
  constructor
  · rintro ⟨-, -, rfl⟩
    rfl
  · rintro rfl
    -- the same text leaves the same phrase, and with it the same time
    obtain rfl := List.append_cancel_left (hshortest.append_eq hgiven)
    obtain rfl : t' = t := Option.some.inj (hshortest.time_eq.symm.trans ht)
    exact ⟨rfl, Option.some.inj (hstamp.symm.trans hstamp'), rfl⟩

/-- A day before an hour parts the two orders, unless the day is all there is to be reminded of. -/
theorem recognize_orders_tomorrow_at_five :
    Timestamp.lastWithRoom.HasRoom ∧
    (∃ first last,
      builtin.recognize (sentenceTimeFirst ["sleep", "tomorrow"] ["at", "5pm"]) .lastWithRoom =
        .ok (some first) ∧
      builtin.recognize (sentenceTimeLast ["sleep", "tomorrow"] ["at", "5pm"]) .lastWithRoom =
        .ok (some last) ∧ first ≠ last) ∧
    ∃ first last,
      builtin.recognize (sentenceTimeFirst ["tomorrow"] ["at", "5pm"]) .lastWithRoom =
        .ok (some first) ∧
      builtin.recognize (sentenceTimeLast ["tomorrow"] ["at", "5pm"]) .lastWithRoom =
        .ok (some last) ∧ first = last := by
  have hroom := Timestamp.hasRoom_lastWithRoom
  have hphrase : RelativeTime.ofWords? ["at", "5pm"] = some ⟨.today, 17, 0⟩ := rfl
  have hwords : ∀ w ∈ ["sleep", "tomorrow"] ++ ["at", "5pm"], IsWord w ∧ lowercase w = w :=
    exists_words_lowercase_eq_iff.1 ⟨"sleep tomorrow at 5pm", rfl⟩
  have hwords' : ∀ w ∈ ["tomorrow"] ++ ["at", "5pm"], IsWord w ∧ lowercase w = w :=
    exists_words_lowercase_eq_iff.1 ⟨"tomorrow at 5pm", rfl⟩
  refine ⟨hroom, ?_, ?_⟩
  · obtain ⟨first, last, hfirst, hlast, -, -, hiff⟩ :=
      recognize_orders_eq_iff (by simp) hphrase hwords hroom
    refine ⟨first, last, hfirst, hlast, fun heq => hiff.1 heq ?_⟩
    exact ⟨["sleep"], ["tomorrow"], ⟨.tomorrow, 17, 0⟩, rfl, by simp, by simp, rfl⟩
  · obtain ⟨first, last, hfirst, hlast, -, -, hiff⟩ :=
      recognize_orders_eq_iff (by simp) hphrase hwords' hroom
    refine ⟨first, last, hfirst, hlast, hiff.2 ?_⟩
    -- one word cannot be split into two parts with words
    rintro ⟨front, back, -, happend, hfront, hback, -⟩
    obtain ⟨rfl, -⟩ | ⟨-, rfl⟩ := List.singleton_eq_append_iff.1 happend
    · exact hfront rfl
    · exact hback rfl

end Repertoire

end Utterance
