import Mathlib.Data.List.Basic
import Mathlib.Data.Option.Basic
import Mathlib.Tactic.SplitIfs
import Utterance.Settings

set_option autoImplicit false

/-!
# What the environment says

An environment sets a name when one of its variables has it, in any case; of several such variables
the first counts. What is set can be refused in two ways: the reference time is no timestamp, or the
value for the layout is neither a yes nor a no. Nothing else is refused, and what is not set has its
default: the log shows warnings, the clock gives the reference time, and documents are laid out over
several lines.

## Main definitions

* `Utterance.Environment.Sets`, `Utterance.Environment.Lacks`: a name has a value, or none.
* `Utterance.Environment.Gives`: what a value says, or a default.
* `Utterance.Environment.HasFault`: a value is refused.
* `Utterance.Settings.AreOf`: the settings are what the environment gives.
* `Utterance.Environment.TellsTime`, `Utterance.Environment.AsksFor`: the reference time and the
  layout of an environment.

## Main results

* `Utterance.Environment.get?_eq_some_iff`: how a value is found.
* `Utterance.Environment.sets_iff_of_nodup`: with distinct names the order does not matter.
* `Utterance.Settings.ofEnvironment_eq_error_iff`: which environments are refused, and why.
* `Utterance.Settings.ofEnvironment_eq_ok_iff`: the settings of the others.
* `Utterance.Settings.ofEnvironment_congr`: which variables the settings depend on.
-/

namespace Utterance

open Calendar Text

/-! ## Variables -/

namespace Environment

variable {α β : Type} {environment environment₁ environment₂ : Environment}
  {name text text' : String}

/-- The first variable with the name, in any case, has the value. -/
def Sets (environment : Environment) (name text : String) : Prop :=
  ∃ front key back, environment = front ++ (key, text) :: back ∧ lowercase key = name ∧
    ∀ e ∈ front, lowercase e.1 ≠ name

/-- No variable has the name, in any case. -/
def Lacks (environment : Environment) (name : String) : Prop :=
  ∀ e ∈ environment, lowercase e.1 ≠ name

/-- A value is found where the environment sets the name. -/
theorem get?_eq_some_iff : environment.get? name = some text ↔ environment.Sets name text := by
  simp only [get?, Option.map_eq_some_iff, List.find?_eq_some_iff_append, Sets]
  constructor
  · rintro ⟨⟨key, value⟩, ⟨hname, front, back, rfl, hfront⟩, rfl⟩
    exact ⟨front, key, back, rfl, by simpa using hname, by simpa using hfront⟩
  · rintro ⟨front, key, back, rfl, hname, hfront⟩
    exact ⟨(key, text), ⟨by simpa using hname, front, back, rfl, by simpa using hfront⟩, rfl⟩

/-- Whether the environment sets the name is seen by looking for its value. -/
instance : Decidable (environment.Sets name text) :=
  decidable_of_iff (environment.get? name = some text) get?_eq_some_iff

/-- No value is found where the environment lacks the name. -/
theorem get?_eq_none_iff : environment.get? name = none ↔ environment.Lacks name := by
  simp [get?, Lacks]

/-- A name has one value. -/
lemma Sets.unique (h : environment.Sets name text) (h' : environment.Sets name text') :
    text = text' :=
  Option.some.inj ((get?_eq_some_iff.2 h).symm.trans (get?_eq_some_iff.2 h'))

/-- A name that is set is not lacking. -/
lemma Sets.not_lacks (h : environment.Sets name text) : ¬ environment.Lacks name := by
  rw [← get?_eq_none_iff, get?_eq_some_iff.2 h]
  exact Option.some_ne_none text

/-- **With distinct names the order does not matter**: any variable with the name gives its
value. -/
theorem sets_iff_of_nodup (h : (environment.map fun e => lowercase e.1).Nodup) :
    environment.Sets name text ↔ ∃ key, (key, text) ∈ environment ∧ lowercase key = name := by
  constructor
  · rintro ⟨front, key, back, rfl, hname, -⟩
    exact ⟨key, List.mem_append_right _ List.mem_cons_self, hname⟩
  · rintro ⟨key, hmem, hname⟩
    obtain ⟨front, back, rfl⟩ := List.append_of_mem hmem
    refine ⟨front, key, back, rfl, hname, fun e he heq => ?_⟩
    rw [List.map_append, List.nodup_append] at h
    refine h.2.2 _ (List.mem_map_of_mem he) _ (List.mem_map_of_mem List.mem_cons_self) ?_
    rw [heq, hname]

/-- Two environments have the same value for a name, or none. -/
def AgreesOn (environment₁ environment₂ : Environment) (name : String) : Prop :=
  ∀ text, environment₁.Sets name text ↔ environment₂.Sets name text

/-- Two environments agree on a name when the same is found for it. -/
lemma agreesOn_iff :
    environment₁.AgreesOn environment₂ name ↔ environment₁.get? name = environment₂.get? name := by
  rw [Option.ext_iff]
  simp only [AgreesOn, get?_eq_some_iff]

/-- Whether two environments agree on a name is seen by looking for its values. -/
instance : Decidable (environment₁.AgreesOn environment₂ name) :=
  decidable_of_iff (environment₁.get? name = environment₂.get? name) agreesOn_iff.symm

/-! ## What a value says -/

/-- What the environment gives for a name: what the value of the name says, or the default where the
name is not set. -/
inductive Gives (environment : Environment) (name : String) (Reads : String → α → Prop)
    (default : α) : α → Prop
  /-- The name is set. -/
  | set {text : String} {a : α} (hset : environment.Sets name text) (hreads : Reads text a) :
    Gives environment name Reads default a
  /-- The name is not set. -/
  | unset (hlacks : environment.Lacks name) : Gives environment name Reads default default

variable {Reads : String → α → Prop} {default a a' : α}

/-- Where the name is set, its value says what the environment gives. -/
lemma Gives.reads (h : environment.Gives name Reads default a) (hset : environment.Sets name text) :
    Reads text a := by
  cases h with
  | set hset' hreads => exact hset'.unique hset ▸ hreads
  | unset hlacks => exact absurd hlacks hset.not_lacks

/-- Where the name is not set, the environment gives the default. -/
lemma Gives.eq_default (h : environment.Gives name Reads default a)
    (hlacks : environment.Lacks name) : a = default := by
  cases h with
  | set hset _ => exact absurd hlacks hset.not_lacks
  | unset _ => rfl

/-- The environment gives one thing when every value says one thing at most. -/
theorem Gives.unique (h : environment.Gives name Reads default a)
    (h' : environment.Gives name Reads default a')
    (hreads : ∀ text a a', Reads text a → Reads text a' → a = a') : a = a' := by
  cases h with
  | set hset hread => exact hreads _ _ _ hread (h'.reads hset)
  | unset hlacks => exact (h'.eq_default hlacks).symm

/-- What is made of the values and of the default is made of what the environment gives. -/
lemma Gives.map {Reads' : String → β → Prop} (f : α → β) (h : environment.Gives name Reads default a)
    (hreads : ∀ text a, Reads text a → Reads' text (f a)) :
    environment.Gives name Reads' (f default) (f a) := by
  cases h with
  | set hset hread => exact .set hset (hreads _ _ hread)
  | unset hlacks => exact .unset hlacks

/-- The layout that a value asks for, in any case: a yes asks for several lines, a no for one. -/
inductive NamesLayout (text : String) : Json.Layout → Prop
  /-- A yes. -/
  | yes (h : lowercase text ∈ ["1", "true", "on", "yes"]) : NamesLayout text .indented
  /-- A no. -/
  | no (h : lowercase text ∈ ["0", "false", "off", "no"]) : NamesLayout text .compact

/-- No value is both a yes and a no. -/
lemma NamesLayout.unique {layout layout' : Json.Layout} (h : NamesLayout text layout)
    (h' : NamesLayout text layout') : layout = layout' := by
  have hdisjoint : ∀ s ∈ ["1", "true", "on", "yes"], s ∉ ["0", "false", "off", "no"] := by decide
  cases h with
  | yes hyes =>
    cases h' with
    | yes _ => rfl
    | no hno => exact absurd hno (hdisjoint _ hyes)
  | no hno =>
    cases h' with
    | yes hyes => exact absurd hno (hdisjoint _ hyes)
    | no _ => rfl

/-- The reference time: the time that its variable names, or the time of the clock. -/
def TellsTime (environment : Environment) (clock now : Timestamp) : Prop :=
  environment.Gives "recognizer_now" (fun text t => Timestamp.ofText text = .ok t) clock now

/-- The layout of documents: what its variable asks for, or several lines. -/
def AsksFor (environment : Environment) (layout : Json.Layout) : Prop :=
  environment.Gives "recognizer_pretty" NamesLayout .indented layout

/-- There is one reference time at most. -/
theorem TellsTime.unique {clock now now' : Timestamp} (h : environment.TellsTime clock now)
    (h' : environment.TellsTime clock now') : now = now' :=
  Gives.unique h h' fun _ _ _ ht ht' => Except.ok.inj (ht.symm.trans ht')

/-- There is one layout at most. -/
theorem AsksFor.unique {layout layout' : Json.Layout} (h : environment.AsksFor layout)
    (h' : environment.AsksFor layout') : layout = layout' :=
  Gives.unique h h' fun _ _ _ => NamesLayout.unique

/-- A value is refused. The reference time is looked at before the layout. -/
inductive HasFault (environment : Environment) : SettingsFault → Prop
  /-- The reference time is no timestamp. -/
  | badTime {text : String} {fault : ReadFault} (hset : environment.Sets "recognizer_now" text)
    (hfault : Timestamp.ofText text = .error fault) : HasFault environment (.badTime fault)
  /-- The value for the layout asks for none. -/
  | notBoolean {text : String}
    (htime : ∀ text, environment.Sets "recognizer_now" text → ∃ t, Timestamp.ofText text = .ok t)
    (hset : environment.Sets "recognizer_pretty" text)
    (hnone : ∀ layout, ¬ NamesLayout text layout) :
    HasFault environment (.notBoolean (lowercase text))

end Environment

/-! ## Settings -/

namespace Settings

open Environment

variable {α : Type} {environment environment₁ environment₂ : Environment}
  {settings settings₁ settings₂ : Settings} {fault : SettingsFault} {name text : String}

/-- A text is read as a reference time when it is a timestamp. -/
lemma readTime_eq_ok_iff {t : Timestamp} : readTime text = .ok t ↔ Timestamp.ofText text = .ok t := by
  cases h : Timestamp.ofText text <;> simp [readTime, h]

/-- A text is refused as a reference time when it is no timestamp. -/
lemma readTime_eq_error_iff : readTime text = .error fault ↔
    ∃ cause, Timestamp.ofText text = .error cause ∧ fault = .badTime cause := by
  cases h : Timestamp.ofText text <;> simp [readTime, h, eq_comm]

/-- A text is read as a truth value when it asks for a layout. -/
lemma readBool_eq_ok_iff {pretty : Bool} :
    readBool text = .ok pretty ↔ NamesLayout text (if pretty then .indented else .compact) := by
  constructor
  · intro h
    simp only [readBool] at h
    split_ifs at h with hyes hno
    · cases h
      exact .yes hyes
    · cases h
      exact .no hno
  · intro h
    cases pretty with
    | true =>
      cases h with
      | yes hyes => simp only [readBool, if_pos hyes]
    | false =>
      have hnyes : lowercase text ∉ ["1", "true", "on", "yes"] := fun hyes => by
        cases h.unique (.yes hyes)
      cases h with
      | no hno => simp only [readBool, if_neg hnyes, if_pos hno]

/-- A text is refused as a truth value when it asks for no layout. -/
lemma readBool_eq_error_iff : readBool text = .error fault ↔
    (∀ layout, ¬ NamesLayout text layout) ∧ fault = .notBoolean (lowercase text) := by
  constructor
  · intro h
    simp only [readBool] at h
    split_ifs at h with hyes hno
    refine ⟨fun layout hlayout => ?_, (Except.error.inj h).symm⟩
    cases hlayout with
    | yes h => exact hyes h
    | no h => exact hno h
  · rintro ⟨hnone, rfl⟩
    have hnyes : lowercase text ∉ ["1", "true", "on", "yes"] := fun hyes => hnone _ (.yes hyes)
    have hnno : lowercase text ∉ ["0", "false", "off", "no"] := fun hno => hnone _ (.no hno)
    simp only [readBool, if_neg hnyes, if_neg hnno]

/-- What is made of the value that is read, or of none, is what the environment gives. -/
lemma gives_of_readVariable {β : Type} {Reads : String → β → Prop}
    {read : String → Except SettingsFault α} {value? : Option α}
    (h : readVariable environment name read = .ok value?) (f : Option α → β)
    (hreads : ∀ text value, read text = .ok value → Reads text (f (some value))) :
    environment.Gives name Reads (f none) (f value?) := by
  cases hget : environment.get? name with
  | none =>
    obtain rfl : none = value? := by simpa [readVariable, hget] using h
    exact .unset (get?_eq_none_iff.1 hget)
  | some text =>
    cases hread : read text with
    | error fault => simp [readVariable, hget, hread, Except.map] at h
    | ok value =>
      obtain rfl : some value = value? := by simpa [readVariable, hget, hread, Except.map] using h
      exact .set (get?_eq_some_iff.1 hget) (hreads text value hread)

/-- Reading a variable fails when its value is refused. -/
lemma readVariable_eq_error_iff {read : String → Except SettingsFault α} :
    readVariable environment name read = .error fault ↔
      ∃ text, environment.Sets name text ∧ read text = .error fault := by
  simp only [← get?_eq_some_iff, readVariable]
  cases environment.get? name with
  | none => simp
  | some text => cases h : read text <;> simp [h, Except.map]

/-- Every reference time that is set is a timestamp, once its variable has been read. -/
lemma exists_ofText_eq_ok {now : Option Timestamp}
    (h : readVariable environment "recognizer_now" readTime = .ok now) :
    ∀ text, environment.Sets "recognizer_now" text → ∃ t, Timestamp.ofText text = .ok t := by
  intro text hset
  cases htext : Timestamp.ofText text with
  | ok t => exact ⟨t, rfl⟩
  | error cause =>
    have hfault := readVariable_eq_error_iff.2 ⟨text, hset, readTime_eq_error_iff.2 ⟨_, htext, rfl⟩⟩
    rw [h] at hfault
    cases hfault

/-- **Which environments are refused.** The settings have the fault of the environment, and none
where it has none. -/
theorem ofEnvironment_eq_error_iff :
    ofEnvironment environment = .error fault ↔ environment.HasFault fault := by
  constructor
  · intro h
    -- the layout is read only after the reference time has been read
    cases hnow : readVariable environment "recognizer_now" readTime with
    | error cause =>
      obtain rfl : cause = fault := by simpa [ofEnvironment, hnow] using h
      obtain ⟨text, hset, hread⟩ := readVariable_eq_error_iff.1 hnow
      obtain ⟨cause, hcause, rfl⟩ := readTime_eq_error_iff.1 hread
      exact .badTime hset hcause
    | ok now =>
      cases hpretty : readVariable environment "recognizer_pretty" readBool with
      | error cause =>
        obtain rfl : cause = fault := by simpa [ofEnvironment, hnow, hpretty] using h
        obtain ⟨text, hset, hread⟩ := readVariable_eq_error_iff.1 hpretty
        obtain ⟨hnone, rfl⟩ := readBool_eq_error_iff.1 hread
        exact .notBoolean (exists_ofText_eq_ok hnow) hset hnone
      | ok pretty => simp [ofEnvironment, hnow, hpretty] at h
  · intro h
    cases h with
    | badTime hset hfault =>
      have hnow := readVariable_eq_error_iff.2 ⟨_, hset, readTime_eq_error_iff.2 ⟨_, hfault, rfl⟩⟩
      simp only [ofEnvironment, hnow]
    | notBoolean htime hset hnone =>
      have hpretty :=
        readVariable_eq_error_iff.2 ⟨_, hset, readBool_eq_error_iff.2 ⟨hnone, rfl⟩⟩
      cases hnow : readVariable environment "recognizer_now" readTime with
      | ok now => simp only [ofEnvironment, hnow, hpretty]
      | error cause =>
        obtain ⟨text, hset, hread⟩ := readVariable_eq_error_iff.1 hnow
        obtain ⟨t, ht⟩ := htime text hset
        simp [readTime, ht] at hread

/-- Whether an environment is refused is seen by reading it. -/
instance (environment : Environment) : Decidable (∃ fault, environment.HasFault fault) :=
  match h : ofEnvironment environment with
  | .error fault => isTrue ⟨fault, ofEnvironment_eq_error_iff.1 h⟩
  | .ok _ => isFalse fun ⟨fault, hfault⟩ => by
    rw [ofEnvironment_eq_error_iff.2 hfault] at h
    cases h

/-- The settings are what the environment gives: what is not set has its default. -/
structure AreOf (settings : Settings) (environment : Environment) : Prop where
  /-- Any value says what is logged. -/
  log : environment.Gives "recognizer_log" Eq "warn" settings.log
  /-- A timestamp is the reference time. -/
  now : environment.Gives "recognizer_now"
    (fun text now => ∃ t, Timestamp.ofText text = .ok t ∧ now = some t) none settings.now
  /-- A yes or a no is the layout. -/
  layout : environment.AsksFor settings.layout

/-- Settings that can be read are what the environment gives. -/
lemma areOf_of_ofEnvironment (h : ofEnvironment environment = .ok settings) :
    settings.AreOf environment := by
  cases hnow : readVariable environment "recognizer_now" readTime with
  | error fault => simp [ofEnvironment, hnow] at h
  | ok now =>
    cases hpretty : readVariable environment "recognizer_pretty" readBool with
    | error fault => simp [ofEnvironment, hnow, hpretty] at h
    | ok pretty =>
      simp only [ofEnvironment, hnow, hpretty, Except.ok.injEq] at h
      subst h
      refine ⟨?_, ?_, ?_⟩
      · cases hlog : environment.get? "recognizer_log" with
        | none => exact .unset (get?_eq_none_iff.1 hlog)
        | some text => exact .set (get?_eq_some_iff.1 hlog) rfl
      · rw [Option.or_none]
        exact gives_of_readVariable hnow id fun text t hread => ⟨t, readTime_eq_ok_iff.1 hread, rfl⟩
      · exact gives_of_readVariable hpretty
          (fun pretty => ({ pretty := pretty.getD true } : Settings).layout)
          fun text pretty hread => readBool_eq_ok_iff.1 hread

/-- Settings that are what the environment gives have no fault. -/
lemma AreOf.not_hasFault (h : settings.AreOf environment) (fault : SettingsFault) :
    ¬ environment.HasFault fault := by
  intro hfault
  cases hfault with
  | badTime hset hcause =>
    obtain ⟨t, ht, -⟩ := h.now.reads hset
    rw [hcause] at ht
    cases ht
  | notBoolean _ hset hnone => exact hnone _ (h.layout.reads hset)

/-- There is one layout for yes and one for no. -/
lemma layout_eq_iff :
    settings₁.layout = settings₂.layout ↔ settings₁.pretty = settings₂.pretty := by
  cases h₁ : settings₁.pretty <;> cases h₂ : settings₂.pretty <;> simp [layout, h₁, h₂]

/-- An environment gives one collection of settings at most. -/
lemma AreOf.unique (h₁ : settings₁.AreOf environment) (h₂ : settings₂.AreOf environment) :
    settings₁ = settings₂ := by
  obtain ⟨log₁, now₁, pretty₁⟩ := settings₁
  obtain ⟨log₂, now₂, pretty₂⟩ := settings₂
  obtain rfl : log₁ = log₂ := h₁.log.unique h₂.log fun _ _ _ h h' => h.symm.trans h'
  obtain rfl : now₁ = now₂ := by
    refine h₁.now.unique h₂.now ?_
    rintro text _ _ ⟨t, ht, rfl⟩ ⟨t', ht', rfl⟩
    rw [Except.ok.inj (ht.symm.trans ht')]
  obtain rfl : pretty₁ = pretty₂ := layout_eq_iff.1 (h₁.layout.unique h₂.layout)
  rfl

/-- **The settings of an environment** are what it gives: the values that are set, and the defaults
of the others. -/
theorem ofEnvironment_eq_ok_iff :
    ofEnvironment environment = .ok settings ↔ settings.AreOf environment := by
  refine ⟨areOf_of_ofEnvironment, fun h => ?_⟩
  -- the environment has no fault, and what is read instead is the same since there is one of it
  cases hread : ofEnvironment environment with
  | error fault => exact absurd (ofEnvironment_eq_error_iff.1 hread) (h.not_hasFault fault)
  | ok settings' => rw [(areOf_of_ofEnvironment hread).unique h]

/-- The reference time of the settings is that of the environment. -/
lemma AreOf.tellsTime (h : settings.AreOf environment) (clock : Timestamp) :
    environment.TellsTime clock (settings.referenceTime clock) := by
  refine h.now.map (·.getD clock) ?_
  rintro text _ ⟨t, ht, rfl⟩
  exact ht

/-- Where no value is refused, the settings can be read. -/
lemma exists_ofEnvironment_eq_ok (h : ¬ ∃ fault, environment.HasFault fault) :
    ∃ settings, ofEnvironment environment = .ok settings := by
  cases hread : ofEnvironment environment with
  | error fault => exact absurd ⟨fault, ofEnvironment_eq_error_iff.1 hread⟩ h
  | ok settings => exact ⟨settings, rfl⟩

/-! ## Two environments -/

/-- **Two variables count.** Environments with the same reference time and layout have the same
fault, or settings that differ in the log at most. -/
theorem ofEnvironment_congr (hnow : environment₁.AgreesOn environment₂ "recognizer_now")
    (hpretty : environment₁.AgreesOn environment₂ "recognizer_pretty") :
    (∃ fault, ofEnvironment environment₁ = .error fault ∧
      ofEnvironment environment₂ = .error fault) ∨
    ∃ settings₁ settings₂, ofEnvironment environment₁ = .ok settings₁ ∧
      ofEnvironment environment₂ = .ok settings₂ ∧
      settings₁.now = settings₂.now ∧ settings₁.pretty = settings₂.pretty := by
  simp only [ofEnvironment, readVariable, agreesOn_iff.1 hnow, agreesOn_iff.1 hpretty]
  split
  · exact .inl ⟨_, rfl, rfl⟩
  · split
    · exact .inl ⟨_, rfl, rfl⟩
    · exact .inr ⟨_, _, rfl, rfl, rfl, rfl⟩

/-- The reference time is set when its variable is. -/
lemma isSome_now_of_isSome (h : ofEnvironment environment = .ok settings)
    (hset : (environment.get? "recognizer_now").isSome = true) : settings.now.isSome = true := by
  obtain ⟨text, htext⟩ := Option.isSome_iff_exists.1 hset
  obtain ⟨t, -, hnow⟩ := (ofEnvironment_eq_ok_iff.1 h).now.reads (get?_eq_some_iff.1 htext)
  rw [hnow, Option.isSome_some]

/-- The clock does not matter when the reference time is set. -/
lemma referenceTime_eq (hnow : settings₁.now = settings₂.now)
    (hset : settings₁.now.isSome = true) (clock₁ clock₂ : Timestamp) :
    settings₁.referenceTime clock₁ = settings₂.referenceTime clock₂ := by
  obtain ⟨now, hsome⟩ := Option.isSome_iff_exists.1 hset
  rw [referenceTime, referenceTime, ← hnow, hsome]
  rfl

end Settings

end Utterance
