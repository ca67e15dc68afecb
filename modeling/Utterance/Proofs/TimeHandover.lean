import Mathlib.Data.List.Basic
import Utterance.Action
import Utterance.Proofs.WrittenTimestamps
import Utterance.Settings

set_option autoImplicit false

/-!
# Handing a time on

A time stands in the document of an action as a text between quotes. This text can be given to the
next call as its reference time: none of its characters is escaped in the document, and the setting
reads it as the time that was written.

## Main results

* `Utterance.Calendar.Timestamp.forall_mem_chars`: the characters of written timestamps.
* `Utterance.Json.quote_timestamp`: a time stands between quotes as it is.
* `Utterance.Settings.ofEnvironment_of_written_time`: a written time as the reference time.
-/

namespace Utterance

open Calendar Text

/-! ## Times in documents -/

namespace Calendar.Timestamp

variable {p : Char → Prop}

/-- **The characters of written timestamps.** What holds of digits and of the five marks of a
timestamp holds of all characters of every written timestamp. -/
theorem forall_mem_chars (hdigit : ∀ c, c.isDigit = true → p c)
    (hmark : ∀ m ∈ ['-', '+', 'T', ':', '.'], p m) (t : Timestamp) : ∀ c ∈ t.chars, p c := by
  have hdecimal (width n : ℕ) : ∀ c ∈ decimal width n, p c :=
    fun c hc => hdigit c (isDigit_of_mem_decimal hc)
  simp only [List.forall_mem_cons] at hmark
  obtain ⟨hminus, hplus, hletter, hcolon, hpoint, -⟩ := hmark
  have hyear (year : ℤ) : ∀ c ∈ yearText year, p c := by
    unfold yearText
    simp only
    split
    · exact List.forall_mem_cons.2 ⟨hminus, hdecimal _ _⟩
    · split
      · exact hdecimal _ _
      · exact List.forall_mem_cons.2 ⟨hplus, hdecimal _ _⟩
  have hfraction (n : ℕ) : ∀ c ∈ fractionText n, p c := by
    unfold fractionText
    split
    · simp
    · split
      · exact List.forall_mem_cons.2 ⟨hpoint, hdecimal _ _⟩
      · split
        · exact List.forall_mem_cons.2 ⟨hpoint, hdecimal _ _⟩
        · exact List.forall_mem_cons.2 ⟨hpoint, hdecimal _ _⟩
  simp only [chars, Date.chars, TimeOfDay.chars, List.forall_mem_append, List.forall_mem_cons]
  exact ⟨⟨⟨hyear _, hminus, hdecimal _ _⟩, hminus, hdecimal _ _⟩, hletter,
    ⟨⟨hdecimal _ _, hcolon, hdecimal _ _⟩, hcolon, hdecimal _ _⟩, hfraction _⟩

end Calendar.Timestamp

namespace Json

/-- A digit stands for itself. -/
lemma escapeChar_of_isDigit {c : Char} (h : c.isDigit = true) : escapeChar c = [c] := by
  obtain ⟨hle, -⟩ := Char.isDigit_iff_toNat.1 h
  refine escapeChar_eq_self ?_ ?_ (le_trans (by decide) hle)
  · rintro rfl
    exact absurd h (by decide)
  · rintro rfl
    exact absurd h (by decide)

/-- **A time stands between quotes as it is written.** -/
theorem quote_timestamp (t : Timestamp) : quote t.text = '"' :: t.text.toList ++ ['"'] := by
  have hself : ∀ c ∈ t.chars, escapeChar c = [c] :=
    t.forall_mem_chars (fun _ => escapeChar_of_isDigit) (by simp [escapeChar])
  rw [quote, Timestamp.text, String.toList_ofList, List.flatMap_congr hself,
    List.flatMap_singleton']

end Json

/-! ## Times as settings -/

namespace Settings

variable {t : Timestamp} {environment : Environment} {text : String}

/-- A written timestamp is read as itself. -/
lemma readTime_text (t : Timestamp) : readTime t.text = .ok t := by
  simp only [readTime, Timestamp.ofText_text]

/-- A reference time that reads fails no environment: the settings have it, or the value for the
layout is at fault. -/
lemma ofEnvironment_of_readTime (hread : readTime text = .ok t)
    (hnow : environment.get? "recognizer_now" = some text) :
    (∃ settings, ofEnvironment environment = .ok settings ∧ settings.now = some t) ∨
      ∃ fault, readVariable environment "recognizer_pretty" readBool = .error fault ∧
        ofEnvironment environment = .error fault := by
  have htime : readVariable environment "recognizer_now" readTime = .ok (some t) := by
    simp only [readVariable, hnow, hread, Except.map]
  cases hpretty : readVariable environment "recognizer_pretty" readBool with
  | error fault => exact .inr ⟨fault, rfl, by simp only [ofEnvironment, htime, hpretty]⟩
  | ok pretty => exact .inl ⟨_, by simp only [ofEnvironment, htime, hpretty]; rfl, rfl⟩

/-- A reference time that reads, and nothing else, makes default settings with this time. -/
lemma ofEnvironment_recognizerNow (hread : readTime text = .ok t) :
    ofEnvironment [("RECOGNIZER_NOW", text)] = .ok { now := some t } := by
  have hname : lowercase "RECOGNIZER_NOW" = "recognizer_now" := by decide
  have hget (name : String) : Environment.get? [("RECOGNIZER_NOW", text)] name =
      if "recognizer_now" = name then some text else none := by
    by_cases h : "recognizer_now" = name <;> simp [Environment.get?, hname, h]
  simp [ofEnvironment, readVariable, hget, hread, Except.map]

/-- **A written time as the reference time.** The text between the quotes of a time in a document
is a reference time: alone, it makes default settings with the very time that was written. Among
other variables the settings have this time too, whatever the clock shows, unless the value for the
layout is at fault.

**Proof sketch.** The text is the written timestamp, since nothing in it is escaped
(`Json.quote_timestamp`), and a written timestamp reads back (`Timestamp.ofText_text`). -/
theorem ofEnvironment_of_written_time {layout : Json.Layout} {depth : ℕ}
    (htext : (Value.time t).document.write layout depth = '"' :: text.toList ++ ['"'])
    (hnow : environment.get? "recognizer_now" = some text) :
    ofEnvironment [("RECOGNIZER_NOW", text)] = .ok { now := some t } ∧
      ((∃ settings, ofEnvironment environment = .ok settings ∧ settings.now = some t ∧
        ∀ clock, settings.referenceTime clock = t) ∨
      ∃ fault, readVariable environment "recognizer_pretty" readBool = .error fault ∧
        ofEnvironment environment = .error fault) := by
  obtain rfl : text = t.text := by
    have hquote : '"' :: text.toList ++ ['"'] = '"' :: t.text.toList ++ ['"'] := by
      rw [← htext, ← Json.quote_timestamp]
      rfl
    exact String.toList_inj.1 (List.append_cancel_right (List.cons.inj hquote).2)
  have hread := readTime_text t
  refine ⟨ofEnvironment_recognizerNow hread, (ofEnvironment_of_readTime hread hnow).imp_left ?_⟩
  · rintro ⟨settings, hsettings, htime⟩
    exact ⟨settings, hsettings, htime, fun clock => by rw [referenceTime, htime, Option.getD_some]⟩

/-- Half a second into a leap second on the first day of the calendar. -/
def earlyLeapSecond : Timestamp :=
  ⟨⟨firstYear, 1, 1, by decide⟩, ⟨23, 59, 59, 1500000000, by decide⟩⟩

/-- The time given on with a name in another case, and with a layout. -/
def leapSecondEnvironment : Environment :=
  [("RECOGNIZER_PRETTY", "Off"), ("Recognizer_Now", "-262143-01-01T23:59:60.500")]

/-- The leap second stands in documents with a sign, a second 60 and three digits behind the point,
and is the reference time. -/
theorem ofEnvironment_leapSecond :
    (Value.time earlyLeapSecond).document.write .indented 2 =
        '"' :: "-262143-01-01T23:59:60.500".toList ++ ['"'] ∧
      leapSecondEnvironment.get? "recognizer_now" = some "-262143-01-01T23:59:60.500" ∧
      ofEnvironment [("RECOGNIZER_NOW", "-262143-01-01T23:59:60.500")] =
        .ok { now := some earlyLeapSecond } ∧
      ((∃ settings, ofEnvironment leapSecondEnvironment = .ok settings ∧
        settings.now = some earlyLeapSecond ∧
        ∀ clock, settings.referenceTime clock = earlyLeapSecond) ∨
      ∃ fault, readVariable leapSecondEnvironment "recognizer_pretty" readBool = .error fault ∧
        ofEnvironment leapSecondEnvironment = .error fault) := by
  have htext : (Value.time earlyLeapSecond).document.write .indented 2 =
      '"' :: "-262143-01-01T23:59:60.500".toList ++ ['"'] := by decide +kernel
  have hnow : leapSecondEnvironment.get? "recognizer_now" = some "-262143-01-01T23:59:60.500" := by
    decide
  exact ⟨htext, hnow, ofEnvironment_of_written_time htext hnow⟩

end Settings

end Utterance
