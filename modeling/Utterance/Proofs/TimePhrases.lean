import Mathlib.Tactic.Lemma
import Utterance.RelativeTime.Phrase

set_option autoImplicit false

/-!
# Beginnings and continuations of time phrases

A run of words that grows towards a time phrase is never mistaken for a run that leads nowhere:
every beginning of a phrase is a phrase itself or waits for a word. In the other direction a phrase
that goes on to a longer phrase goes on with `at` and a clock time, and with nothing else.

## Main results

* `Utterance.RelativeTime.isBegun_or_isSome_of_append`: beginnings of a time phrase.
* `Utterance.RelativeTime.ofWords_eq_clock_of_append`, `Utterance.RelativeTime.eq_at_of_append`: the
  continuation of one phrase to another.
* `Utterance.RelativeTime.le_of_ofWords?`: the bounds of the times that phrases name.
-/

namespace Utterance

open Calendar

/-! ## The meanings of words -/

namespace TimeWord

/-- No words have no time words. -/
@[simp] lemma ofWords_nil : ofWords [] = [] := rfl

/-- The time words of two lists of words stand one behind the other. -/
@[simp] lemma ofWords_append (ws vs : List String) :
    ofWords (ws ++ vs) = ofWords ws ++ ofWords vs := by
  simp [ofWords]

/-- A word with spaces in it has several time words. -/
lemma ofWords_cons (w : String) (ws : List String) :
    ofWords (w :: ws) = (w.toList.splitOn ' ').map ofChars ++ ofWords ws := rfl

/-- Every word has a meaning, the empty word included. -/
lemma ofWords_eq_nil_iff {ws : List String} : ofWords ws = [] ↔ ws = [] := by
  cases ws with
  | nil => simp
  | cons w ws => simp [ofWords_cons]

/-- A word that holds no space has one meaning. -/
lemma ofWords_cons_of_notMem {w : String} (h : ' ' ∉ w.toList) (ws : List String) :
    ofWords (w :: ws) = ofChars w.toList :: ofWords ws := by
  rw [ofWords_cons, List.splitOn_eq_singleton h]
  rfl

/-- The meaning of a word is that of a keyword, a weekday, a clock time, or none of these. -/
lemma ofChars_cases (cs : List Char) :
    (String.ofList cs, ofChars cs) ∈ keywords ∨
      (∃ w, Weekday.ofName? (String.ofList (cs.map Char.toLower)) = some w ∧
        ofChars cs = weekday w (cs == cs.map Char.toLower)) ∨
      (∃ hour minute, clockTime? cs = some (hour, minute) ∧ ofChars cs = clock hour minute) ∨
      ofChars cs = other := by
  simp only [ofChars]
  rcases hkeyword : keywords.lookup (String.ofList cs) with _ | word
  · rcases hweekday : Weekday.ofName? (String.ofList (cs.map Char.toLower)) with _ | w
    · rcases hclock : clockTime? cs with _ | ⟨hour, minute⟩
      · exact .inr (.inr (.inr rfl))
      · exact .inr (.inr (.inl ⟨hour, minute, rfl, rfl⟩))
    · exact .inr (.inl ⟨w, rfl, rfl⟩)
  · obtain ⟨front, back, hkeywords, -⟩ := List.lookup_eq_some_iff.1 hkeyword
    left
    rw [hkeywords]
    simp

/-- Only the word `at` announces a clock time. -/
lemma eq_at_of_ofChars {cs : List Char} (h : ofChars cs = atTime) : String.ofList cs = "at" := by
  rcases ofChars_cases cs with hmem | ⟨w, -, hw⟩ | ⟨hour, minute, -, hclock⟩ | hother
  · rw [h] at hmem
    simpa [keywords] using hmem
  · simp [hw] at h
  · simp [hclock] at h
  · simp [hother] at h

/-- A clock time reads no hour past 24, which is `12pm`, and no minute past 59. -/
lemma le_of_clockTime? {cs : List Char} {hour minute : Nat}
    (h : clockTime? cs = some (hour, minute)) : hour ≤ 24 ∧ minute ≤ 59 := by
  simp only [clockTime?, Option.bind_eq_bind, Option.bind_eq_some_iff] at h
  obtain ⟨⟨m, rest⟩, -, afternoon, -, h⟩ := h
  split at h
  · simp at h
  · rename_i hbounds
    split at h
    · simp only [Option.some.injEq, Prod.mk.injEq] at h
      omega
    · simp only [Option.some.injEq, Prod.mk.injEq] at h
      omega

/-- A clock time has an hour up to 24 and a minute up to 59. -/
lemma le_of_clock_mem_ofWords {ws : List String} {hour minute : Nat}
    (h : clock hour minute ∈ ofWords ws) : hour ≤ 24 ∧ minute ≤ 59 := by
  obtain ⟨w, -, h⟩ := List.mem_flatMap.1 h
  obtain ⟨cs, -, h⟩ := List.mem_map.1 h
  rcases ofChars_cases cs with hmem | ⟨_, -, hw⟩ | ⟨_, _, hclock, heq⟩ | hother
  · rw [h] at hmem
    simp [keywords] at hmem
  · simp [hw] at h
  · rw [heq, clock.injEq] at h
    obtain ⟨rfl, rfl⟩ := h
    exact le_of_clockTime? hclock
  · simp [hother] at h

end TimeWord

/-! ## Phrases by the meanings of their words -/

namespace RelativeTime

open TimeWord

/-- Every beginning of a phrase waits for a word or is a phrase. -/
lemma awaitsWord_or_isSome_of_append {a b : List TimeWord} (ha : a ≠ [])
    (h : (ofTimeWords? (a ++ b)).isSome) : awaitsWord a = true ∨ (ofTimeWords? a).isSome := by
  obtain ⟨n, hn, hna⟩ : ∃ n, 0 < n ∧ a = (a ++ b).take n :=
    ⟨a.length, List.length_pos_iff.2 ha, by simp⟩
  generalize a ++ b = phrase at h hna
  subst hna
  -- a phrase has at most four words, so there are few places where it can be cut
  unfold ofTimeWords? at h
  split at h <;> rcases n with _ | _ | _ | _ | n
  all_goals
    first
    | exact .inl rfl
    | exact .inr rfl
    | exact absurd hn (Nat.lt_irrefl 0)
    | exact Bool.noConfusion h
    | simp [ofTimeWords?]

/-- A phrase that goes on to a longer phrase goes on with a clock time. -/
lemma eq_clock_of_append {a b : List TimeWord} (hb : b ≠ []) (ha : (ofTimeWords? a).isSome)
    (hab : (ofTimeWords? (a ++ b)).isSome) : ∃ hour minute, b = [atTime, clock hour minute] := by
  obtain ⟨n, hna, hnb⟩ : ∃ n, a = (a ++ b).take n ∧ b = (a ++ b).drop n :=
    ⟨a.length, by simp, by simp⟩
  generalize a ++ b = phrase at hab hna hnb
  subst hna hnb
  unfold ofTimeWords? at hab
  split at hab <;> rcases n with _ | _ | _ | _ | n
  -- each cut leaves a clock time, or nothing, or has no phrase in front
  all_goals
    first
    | exact ⟨_, _, rfl⟩
    | exact absurd rfl hb
    | exact Bool.noConfusion ha
    | exact Bool.noConfusion hab
    | exact absurd List.drop_nil hb

/-- The hour and the minute of a phrase are those of its clock time, or those of its day. -/
lemma le_of_ofTimeWords? {a : List TimeWord} {t : RelativeTime} (h : ofTimeWords? a = some t)
    (hclock : ∀ hour minute, clock hour minute ∈ a → hour ≤ 24 ∧ minute ≤ 59) :
    t.hour ≤ 24 ∧ t.minute ≤ 59 := by
  unfold ofTimeWords? at h
  split at h <;> simp only [Option.some.injEq, reduceCtorEq] at h <;> subst h
  all_goals first | simp; done | exact hclock _ _ (by simp)

/-! ## Phrases by their words -/

/-- Every beginning of a time phrase waits for a word or is a time phrase. -/
theorem isBegun_or_isSome_of_append {ws vs : List String} (hws : ws ≠ [])
    (h : (ofWords? (ws ++ vs)).isSome) : isBegun ws = true ∨ (ofWords? ws).isSome := by
  rw [ofWords?, ofWords_append] at h
  exact awaitsWord_or_isSome_of_append (mt ofWords_eq_nil_iff.1 hws) h

/-- A time phrase that goes on to a longer one goes on with `at` and a clock time. -/
theorem ofWords_eq_clock_of_append {ws vs : List String} (hvs : vs ≠ [])
    (hws : (ofWords? ws).isSome) (h : (ofWords? (ws ++ vs)).isSome) :
    ∃ hour minute, ofWords vs = [atTime, clock hour minute] := by
  rw [ofWords?, ofWords_append] at h
  exact eq_clock_of_append (mt ofWords_eq_nil_iff.1 hvs) hws h

/-- The words that follow a time phrase within a longer one begin with `at`, provided that the
first of them holds no space. -/
theorem eq_at_of_append {w : String} {ws vs : List String} (hspace : ' ' ∉ w.toList)
    (hws : (ofWords? ws).isSome) (h : (ofWords? (ws ++ w :: vs)).isSome) : w = "at" := by
  obtain ⟨hour, minute, heq⟩ := ofWords_eq_clock_of_append (List.cons_ne_nil w vs) hws h
  rw [ofWords_cons_of_notMem hspace, List.cons.injEq] at heq
  simpa using eq_at_of_ofChars heq.1

/-- A word without a meaning begins no time phrase. -/
theorem ofWords?_cons_eq_none {w : String} (hspace : ' ' ∉ w.toList)
    (hother : ofChars w.toList = other) (ws : List String) : ofWords? (w :: ws) = none := by
  rw [ofWords?, ofWords_cons_of_notMem hspace, hother]
  rfl

/-- Without words there is no time phrase. -/
lemma ne_nil_of_ofWords? {ws : List String} {t : RelativeTime} (h : ofWords? ws = some t) :
    ws ≠ [] := by
  rintro rfl
  cases h

/-- A time phrase names no hour past 24 and no minute past 59. -/
theorem le_of_ofWords? {ws : List String} {t : RelativeTime} (h : ofWords? ws = some t) :
    t.hour ≤ 24 ∧ t.minute ≤ 59 :=
  le_of_ofTimeWords? h fun _ _ => le_of_clock_mem_ofWords

end RelativeTime

end Utterance
