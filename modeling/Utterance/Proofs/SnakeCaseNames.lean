import Mathlib.Computability.Language
import Mathlib.Data.List.Chain
import Mathlib.Tactic.Lemma
import Utterance.Action

set_option autoImplicit false

/-!
# Names in snake case

A name in snake case is a letter and then groups with single underscores between them. The same can
be said by a regular expression, and of the characters alone: where the name begins and ends, which
characters it has, and that no two underscores touch. Two such names with an underscore between them
are one again, so the name of an action is in snake case.

## Main definitions

* `Utterance.Text.GoesOn`: what may follow the first letter of a name, by groups.
* `Utterance.Text.snakeCaseNames`: the names as a regular language.
* `Utterance.Text.IsSnakeCaseName`: the names by their characters.

## Main results

* `Utterance.Text.isSnakeCaseChars_iff_mem`: splitting decides the regular language.
* `Utterance.Text.isSnakeCaseChars_iff`: splitting decides the names by their characters.
* `Utterance.Text.isSnakeCase_append`: joined names.
* `Utterance.Action.isSnakeCase_iff_and_name`: what a name is, and that the name of an action is one.
-/

namespace Utterance.Text

open scoped Computability

variable {cs ds : List Char} {c : Char}

/-- A small letter may stand in a group. -/
lemma isGroupChar_of_isSmallLetter (h : isSmallLetter c = true) : isGroupChar c = true := by
  rw [isGroupChar, h, Bool.true_or]

/-- No group has an underscore. -/
lemma ne_underscore_of_isGroupChar (h : isGroupChar c = true) : c ≠ '_' := by
  rintro rfl
  exact absurd h (by decide)

/-! ## Groups -/

/-- A group: one or more letters and digits. -/
def IsGroup (g : List Char) : Prop := g ≠ [] ∧ ∀ c ∈ g, isGroupChar c = true

/-- What may follow the first letter of a name: the rest of its group, and more groups, each behind
an underscore. -/
def GoesOn (cs : List Char) : Prop :=
  ∃ (first : List Char) (groups : List (List Char)), cs = first ++ groups.flatMap ('_' :: ·) ∧
    (∀ c ∈ first, isGroupChar c = true) ∧ ∀ g ∈ groups, IsGroup g

/-- Pieces with underscores between them are the first piece, and every other behind an underscore. -/
lemma intercalate_cons_eq (first : List Char) (groups : List (List Char)) :
    ['_'].intercalate (first :: groups) = first ++ groups.flatMap ('_' :: ·) := by
  induction groups generalizing first with
  | nil => simp
  | cons g groups ih =>
    rw [List.intercalate_cons_cons, ih, List.flatMap_cons, List.append_assoc,
      List.singleton_append, List.cons_append]

/-- **Splitting at the underscores** finds the groups of a name. -/
lemma isSnakeCaseChars_iff_goesOn :
    isSnakeCaseChars cs = true ↔ ∃ c rest, cs = c :: rest ∧ isSmallLetter c = true ∧ GoesOn rest := by
  rw [isSnakeCaseChars, Bool.and_eq_true, List.all_eq_true]
  constructor
  · rintro ⟨hhead, hpieces⟩
    obtain ⟨piece, groups, hsplit⟩ := List.exists_cons_of_ne_nil (List.splitOn_ne_nil '_' cs)
    have hjoin : ['_'].intercalate (cs.splitOn '_') = cs := List.intercalate_splitOn '_'
    have hgroup : ∀ g ∈ piece :: groups, IsGroup g := by
      intro g hg
      simpa [IsGroup] using hpieces g (hsplit ▸ hg)
    obtain ⟨c, first, rfl⟩ := List.exists_cons_of_ne_nil (hgroup piece List.mem_cons_self).1
    rw [hsplit, intercalate_cons_eq, List.cons_append] at hjoin
    subst hjoin
    refine ⟨c, _, rfl, by simpa using hhead, first, groups, rfl, fun d hd => ?_, fun g hg => ?_⟩
    · exact (hgroup _ List.mem_cons_self).2 d (List.mem_cons_of_mem c hd)
    · exact hgroup g (List.mem_cons_of_mem _ hg)
  · rintro ⟨c, _, rfl, hc, first, groups, rfl, hfirst, hgroups⟩
    have hgroup : ∀ g ∈ (c :: first) :: groups, IsGroup g := by
      refine List.forall_mem_cons.2 ⟨⟨by simp, ?_⟩, hgroups⟩
      exact List.forall_mem_cons.2 ⟨isGroupChar_of_isSmallLetter hc, hfirst⟩
    have hsplit : (c :: (first ++ groups.flatMap ('_' :: ·))).splitOn '_' =
        (c :: first) :: groups := by
      rw [← List.cons_append, ← intercalate_cons_eq]
      refine List.splitOn_intercalate '_' (fun g hg hmem => ?_) (List.cons_ne_nil _ _)
      exact ne_underscore_of_isGroupChar ((hgroup g hg).2 _ hmem) rfl
    refine ⟨by simpa using hc, fun g hg => ?_⟩
    simpa [IsGroup] using hgroup g (hsplit ▸ hg)

/-! ## The regular language -/

/-- The one-letter words of the characters with a property. -/
def oneOf (p : Char → Bool) : Language Char := {w | ∃ c, p c = true ∧ w = [c]}

/-- The names in snake case as a regular language: a letter, then letters and digits, then any number
of underscores that are each followed by one or more letters and digits. -/
def snakeCaseNames : Language Char :=
  oneOf isSmallLetter * (oneOf isGroupChar)∗ *
    (({['_']} : Language Char) * (oneOf isGroupChar * (oneOf isGroupChar)∗))∗

/-- The texts of one character with a property. -/
lemma mem_oneOf {p : Char → Bool} : cs ∈ oneOf p ↔ ∃ c, p c = true ∧ cs = [c] := Iff.rfl

/-- Any number of characters with a property. -/
lemma mem_kstar_oneOf {p : Char → Bool} : cs ∈ (oneOf p)∗ ↔ ∀ c ∈ cs, p c = true := by
  rw [Language.mem_kstar]
  constructor
  · rintro ⟨ws, rfl, hws⟩ c hc
    obtain ⟨w, hw, hc⟩ := List.mem_flatten.1 hc
    obtain ⟨d, hd, rfl⟩ := hws w hw
    exact List.mem_singleton.1 hc ▸ hd
  · intro h
    refine ⟨cs.map fun c => [c], by simp [← List.flatMap_def], fun w hw => ?_⟩
    obtain ⟨c, hc, rfl⟩ := List.mem_map.1 hw
    exact ⟨c, h c hc, rfl⟩

/-- One or more letters and digits are a group. -/
lemma mem_group_iff : cs ∈ oneOf isGroupChar * (oneOf isGroupChar)∗ ↔ IsGroup cs := by
  simp only [Language.mem_mul, mem_kstar_oneOf]
  constructor
  · rintro ⟨_, ⟨c, hc, rfl⟩, rest, hrest, rfl⟩
    exact ⟨by simp, List.forall_mem_cons.2 ⟨hc, hrest⟩⟩
  · rintro ⟨hne, hcs⟩
    obtain ⟨c, rest, rfl⟩ := List.exists_cons_of_ne_nil hne
    obtain ⟨hc, hrest⟩ := List.forall_mem_cons.1 hcs
    exact ⟨[c], ⟨c, hc, rfl⟩, rest, hrest, rfl⟩

/-- Any number of groups, each behind an underscore. -/
lemma mem_kstar_groups_iff :
    cs ∈ (({['_']} : Language Char) * (oneOf isGroupChar * (oneOf isGroupChar)∗))∗ ↔
      ∃ groups : List (List Char), cs = groups.flatMap ('_' :: ·) ∧ ∀ g ∈ groups, IsGroup g := by
  rw [Language.mem_kstar]
  constructor
  · rintro ⟨ws, rfl, hws⟩
    induction ws with
    | nil => exact ⟨[], rfl, by simp⟩
    | cons w ws ih =>
      obtain ⟨hw, hrest⟩ := List.forall_mem_cons.1 hws
      obtain ⟨_, rfl, g, hg, rfl⟩ := Language.mem_mul.1 hw
      obtain ⟨groups, hgroups, hall⟩ := ih hrest
      refine ⟨g :: groups, ?_, List.forall_mem_cons.2 ⟨mem_group_iff.1 hg, hall⟩⟩
      rw [List.flatten_cons, List.flatMap_cons, hgroups]
      rfl
  · rintro ⟨groups, rfl, hall⟩
    refine ⟨groups.map ('_' :: ·), by rw [List.flatMap_def], fun w hw => ?_⟩
    obtain ⟨g, hg, rfl⟩ := List.mem_map.1 hw
    exact Language.mem_mul.2 ⟨['_'], rfl, g, mem_group_iff.2 (hall g hg), rfl⟩

/-- **Splitting decides the regular language.** -/
theorem isSnakeCaseChars_iff_mem : isSnakeCaseChars cs = true ↔ cs ∈ snakeCaseNames := by
  rw [isSnakeCaseChars_iff_goesOn, snakeCaseNames]
  simp only [Language.mem_mul, mem_kstar_groups_iff, mem_kstar_oneOf, mem_oneOf]
  constructor
  · rintro ⟨c, _, rfl, hc, first, groups, rfl, hfirst, hgroups⟩
    exact ⟨_, ⟨_, ⟨c, hc, rfl⟩, first, hfirst, rfl⟩, _, ⟨groups, rfl, hgroups⟩, rfl⟩
  · rintro ⟨_, ⟨_, ⟨c, hc, rfl⟩, first, hfirst, rfl⟩, _, ⟨groups, rfl, hgroups⟩, rfl⟩
    exact ⟨c, _, rfl, hc, first, groups, rfl, hfirst, hgroups⟩

/-! ## Names by their characters -/

/-- A name in snake case, by its characters. -/
structure IsSnakeCaseName (cs : List Char) : Prop where
  /-- There is a character. -/
  ne_nil : cs ≠ []
  /-- The first one is a lower-case ASCII letter. -/
  head : ∀ c ∈ cs.head?, 'a' ≤ c ∧ c ≤ 'z'
  /-- There are lower-case ASCII letters, ASCII digits and underscores only. -/
  chars : ∀ c ∈ cs, ('a' ≤ c ∧ c ≤ 'z') ∨ ('0' ≤ c ∧ c ≤ '9') ∨ c = '_'
  /-- The last one is not an underscore. -/
  last : cs.getLast? ≠ some '_'
  /-- No two underscores touch. -/
  apart : cs.IsChain fun a b => ¬ (a = '_' ∧ b = '_')

/-- The small letters are those from a to z. -/
lemma isSmallLetter_iff : isSmallLetter c = true ↔ 'a' ≤ c ∧ c ≤ 'z' := by
  simp [isSmallLetter]

/-- In a group stand small letters and digits. -/
lemma isGroupChar_iff :
    isGroupChar c = true ↔ ('a' ≤ c ∧ c ≤ 'z') ∨ ('0' ≤ c ∧ c ≤ '9') := by
  simp [isGroupChar, isSmallLetter]

/-- A name may end behind any group. -/
lemma goesOn_nil : GoesOn [] := ⟨[], [], rfl, by simp, by simp⟩

/-- A letter or digit lengthens the group in front. -/
lemma goesOn_cons_iff (h : c ≠ '_') : GoesOn (c :: cs) ↔ isGroupChar c = true ∧ GoesOn cs := by
  constructor
  · rintro ⟨_ | ⟨d, first⟩, groups, heq, hfirst, hgroups⟩
    · cases groups with
      | nil => cases heq
      | cons g groups => exact absurd (List.cons.inj heq).1 h
    · obtain ⟨rfl, rfl⟩ := List.cons.inj heq
      obtain ⟨hc, hfirst⟩ := List.forall_mem_cons.1 hfirst
      exact ⟨hc, first, groups, rfl, hfirst, hgroups⟩
  · rintro ⟨hc, first, groups, rfl, hfirst, hgroups⟩
    exact ⟨c :: first, groups, rfl, List.forall_mem_cons.2 ⟨hc, hfirst⟩, hgroups⟩

/-- An underscore opens a group, so a letter or digit follows it. -/
lemma goesOn_underscore_iff :
    GoesOn ('_' :: cs) ↔ (∃ c, cs.head? = some c ∧ c ≠ '_') ∧ GoesOn cs := by
  constructor
  · rintro ⟨_ | ⟨d, first⟩, groups, heq, hfirst, hgroups⟩
    · cases groups with
      | nil => cases heq
      | cons g groups =>
        obtain ⟨⟨hne, hg⟩, hrest⟩ := List.forall_mem_cons.1 hgroups
        obtain ⟨d, g, rfl⟩ := List.exists_cons_of_ne_nil hne
        obtain rfl : cs = d :: g ++ groups.flatMap ('_' :: ·) := (List.cons.inj heq).2
        have hd := ne_underscore_of_isGroupChar (hg d List.mem_cons_self)
        exact ⟨⟨d, rfl, hd⟩, d :: g, groups, rfl, hg, hrest⟩
    · obtain ⟨rfl, -⟩ := List.cons.inj heq
      exact absurd rfl (ne_underscore_of_isGroupChar (hfirst _ List.mem_cons_self))
  · rintro ⟨⟨c, hhead, hc⟩, first, groups, rfl, hfirst, hgroups⟩
    refine ⟨[], first :: groups, rfl, by simp, List.forall_mem_cons.2 ⟨⟨?_, hfirst⟩, hgroups⟩⟩
    -- An empty group would leave the next underscore, or nothing, behind this one.
    rintro rfl
    cases groups with
    | nil => cases hhead
    | cons g groups => exact hc (Option.some.inj hhead).symm

/-- **What follows the first letter, by characters**: letters, digits and underscores, the last no
underscore, and no two underscores side by side.

**Proof sketch.** By induction on the characters. One that is no underscore lengthens the group in
front; an underscore must have a letter or digit behind it, which is what the neighbour and the end
say. -/
lemma goesOn_iff :
    GoesOn cs ↔ (∀ c ∈ cs, isGroupChar c = true ∨ c = '_') ∧ cs.getLast? ≠ some '_' ∧
      cs.IsChain fun a b => ¬ (a = '_' ∧ b = '_') := by
  induction cs with
  | nil => simp [goesOn_nil]
  | cons c cs ih =>
    by_cases hc : c = '_'
    · subst hc
      rw [goesOn_underscore_iff, ih]
      cases cs with
      | nil => simp
      | cons d cs => simp [List.isChain_cons_cons]; tauto
    · rw [goesOn_cons_iff hc, ih]
      cases cs with
      | nil => simp [hc]
      | cons d cs => simp [List.isChain_cons_cons, hc]; tauto

/-- The first letter can be counted among the characters that go on. -/
lemma goesOn_cons_of_isSmallLetter (h : isSmallLetter c = true) : GoesOn (c :: cs) ↔ GoesOn cs := by
  have hgroup := isGroupChar_of_isSmallLetter h
  rw [goesOn_cons_iff (ne_underscore_of_isGroupChar hgroup), and_iff_right hgroup]

/-- **Splitting decides the names by their characters.** -/
theorem isSnakeCaseChars_iff : isSnakeCaseChars cs = true ↔ IsSnakeCaseName cs := by
  have hchar (d : Char) : (isGroupChar d = true ∨ d = '_') ↔
      ('a' ≤ d ∧ d ≤ 'z') ∨ ('0' ≤ d ∧ d ≤ '9') ∨ d = '_' := by
    rw [isGroupChar_iff, or_assoc]
  rw [isSnakeCaseChars_iff_goesOn]
  constructor
  · rintro ⟨c, rest, rfl, hc, hrest⟩
    obtain ⟨hchars, hlast, hapart⟩ := goesOn_iff.1 ((goesOn_cons_of_isSmallLetter hc).2 hrest)
    refine ⟨List.cons_ne_nil _ _, ?_, fun d hd => (hchar d).1 (hchars d hd), hlast, hapart⟩
    rintro d ⟨⟩
    exact isSmallLetter_iff.1 hc
  · rintro ⟨hne, hhead, hchars, hlast, hapart⟩
    obtain ⟨c, rest, rfl⟩ := List.exists_cons_of_ne_nil hne
    have hc : isSmallLetter c = true := isSmallLetter_iff.2 (hhead c rfl)
    have hall := goesOn_iff.2 ⟨fun d hd => (hchar d).2 (hchars d hd), hlast, hapart⟩
    exact ⟨c, rest, rfl, hc, (goesOn_cons_of_isSmallLetter hc).1 hall⟩

/-- **A text is in snake case** when its characters make a snake-case name. -/
theorem isSnakeCase_iff {s : String} : isSnakeCase s = true ↔ IsSnakeCaseName s.toList :=
  isSnakeCaseChars_iff

/-- One text for each way to miss: empty, a digit in front, an underscore at the end, two underscores
together, a capital letter, a line end, and a letter that is not ASCII. -/
example : ["", "7_wake", "wake_", "wake__me", "Wake", "wake\n", "wäke"].filter isSnakeCase = [] := by
  decide

/-! ## Joined names -/

/-- Two names with an underscore between them are a name. -/
lemma IsSnakeCaseName.append (hcs : IsSnakeCaseName cs) (hds : IsSnakeCaseName ds) :
    IsSnakeCaseName (cs ++ '_' :: ds) := by
  obtain ⟨c, rest, rfl⟩ := List.exists_cons_of_ne_nil hcs.ne_nil
  obtain ⟨d, rest', rfl⟩ := List.exists_cons_of_ne_nil hds.ne_nil
  have hd : d ≠ '_' := by
    rintro rfl
    exact absurd (hds.head '_' rfl) (by decide)
  refine ⟨by simp, hcs.head, ?_, ?_, ?_⟩
  · intro e he
    rcases List.mem_append.1 he with he | he
    · exact hcs.chars e he
    · rcases List.mem_cons.1 he with rfl | he
      · exact .inr (.inr rfl)
      · exact hds.chars e he
  · rw [List.getLast?_append_cons, List.getLast?_cons_cons]
    exact hds.last
  · refine List.isChain_append.2 ⟨hcs.apart, ?_, ?_⟩
    · exact List.isChain_cons_cons.2 ⟨fun h => hd h.2, hds.apart⟩
    · rintro e he _ - ⟨rfl, -⟩
      exact hcs.last he

/-- **Joined names**: two names with an underscore between them are a name. -/
theorem isSnakeCase_append {s t : String} (hs : isSnakeCase s = true) (ht : isSnakeCase t = true) :
    isSnakeCase (s ++ "_" ++ t) = true := by
  rw [isSnakeCase_iff] at hs ht ⊢
  simpa [String.toList_append] using hs.append ht

end Utterance.Text

namespace Utterance.Action

open Text

/-- **Names in snake case**: a text is taken exactly when it is not empty, begins with a lower-case
ASCII letter, has lower-case ASCII letters, ASCII digits and underscores only, and has no underscore
at its end and none beside another; these are the words of the regular language. The action of every
command that was accepted has the name of the command with `_action` behind it, and that name is in
snake case again.

**Proof sketch.** Splitting finds the groups (`isSnakeCaseChars_iff_goesOn`), which are both the
regular language and, by `goesOn_iff`, what the characters say. The name of the action is a name, an
underscore and a name (`isSnakeCase_append`). -/
theorem isSnakeCase_iff_and_name :
    (∀ s, isSnakeCase s = true ↔ IsSnakeCaseName s.toList) ∧
      (∀ s, isSnakeCase s = true ↔ s.toList ∈ snakeCaseNames) ∧
      ∀ name grammars command, Command.ofGrammars name grammars = .ok command → ∀ extract,
        (ofRecognition ⟨command, extract⟩).name = name ++ "_action" ∧
          isSnakeCase (ofRecognition ⟨command, extract⟩).name = true := by
  refine ⟨fun s => isSnakeCase_iff, fun s => isSnakeCaseChars_iff_mem, ?_⟩
  intro name grammars command h extract
  obtain ⟨rfl, -⟩ := Command.ofGrammars_eq_ok_iff.1 h
  refine ⟨rfl, ?_⟩
  rw [ofRecognition, show "_action" = "_" ++ "action" from rfl, ← String.append_assoc]
  exact isSnakeCase_append command.snakeCase (by decide)

/-- The sentences that begin with `wake`. -/
def wakeGrammar : Grammar where
  slots := [.fixed ["wake"]]
  wellFormed := wellFormed_of_firstFault?_eq_none (by decide)

/-- A digit may follow an underscore, so `wake_at_7` names a command, and its action. -/
theorem isSnakeCase_wakeAtSeven :
    ∃ command, Command.ofGrammars "wake_at_7" [wakeGrammar] = .ok command ∧
      IsSnakeCaseName "wake_at_7".toList ∧
      (ofRecognition ⟨command, .noData⟩).name = "wake_at_7_action" ∧
      IsSnakeCaseName "wake_at_7_action".toList := by
  obtain ⟨command, hcommand⟩ : ∃ command, Command.ofGrammars "wake_at_7" [wakeGrammar] = .ok command :=
    ⟨_, rfl⟩
  obtain ⟨hchars, -, haction⟩ := isSnakeCase_iff_and_name
  obtain ⟨hwake, hsnake⟩ := haction "wake_at_7" [wakeGrammar] command hcommand .noData
  rw [hwake] at hsnake
  exact ⟨command, hcommand, (hchars _).1 (by decide), hwake, (hchars _).1 hsnake⟩

end Utterance.Action
