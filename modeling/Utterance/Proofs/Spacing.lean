import Mathlib.Data.List.Chain
import Utterance.Proofs.Sentences
import Utterance.Slot

set_option autoImplicit false

/-!
# The spacing of a sentence

A sentence is its words with blanks around them. Cutting it into words takes the blanks away and
nothing else: no character of a word is lost, none is added, and one word ends and the next begins
where the sentence has blanks between other characters. So every sentence is its words with some
spacing, and words with any spacing are the words of that sentence, whichever blanks stand between
them and however many.

## Main definitions

* `Utterance.Text.Spacing`: words with the blanks around them.
* `Utterance.Text.Gap`: a maximal run of blanks inside a sentence.
* `Utterance.Text.AreWordsOf`: the words of a sentence, said by its characters and its gaps.

## Main results

* `Utterance.Text.isBlank_iff_mem_whiteSpace`: the blanks, one by one.
* `Utterance.Text.Spacing.words_text`, `Utterance.Text.Spacing.exists_text_eq`: words with any
  spacing are found again, and every sentence has a spacing.
* `Utterance.Text.areWordsOf_words`, `Utterance.Text.AreWordsOf.unique`: cutting finds the words by
  characters and gaps, and there are no others.
* `Utterance.Text.words_eq_iff_spacing`: both descriptions of the words of a sentence.
-/

namespace Utterance.Text

variable {c : Char} {s t v w sentence gap before behind : String} {ws vs : List String}

/-! ## Blanks -/

/-- The characters with the Unicode property `White_Space`, one by one. -/
def whiteSpace : List Char :=
  ['\t', '\n', '\x0b', '\x0c', '\r', ' ', '\u0085', '\u00a0', '\u1680', '\u2000', '\u2001',
   '\u2002', '\u2003', '\u2004', '\u2005', '\u2006', '\u2007', '\u2008', '\u2009', '\u200a',
   '\u2028', '\u2029', '\u202f', '\u205f', '\u3000']

/-- **The blanks** are the characters with the property, and no others. -/
theorem isBlank_iff_mem_whiteSpace : isBlank c = true ↔ c ∈ whiteSpace := by
  constructor
  · intro h
    -- no interval has more than eleven characters, and they are all listed
    have hshort : ∀ i ∈ blanks, i.2 < i.1 + 11 := by decide
    have hlisted : ∀ i ∈ blanks, ∀ k < 11, i.1 + k ≤ i.2 → Char.ofNat (i.1 + k) ∈ whiteSpace := by
      decide
    obtain ⟨i, hi, hfirst, hlast⟩ := CodePoints.has_iff.1 h
    have hlt := hshort i hi
    have hc := hlisted i hi (c.toNat - i.1) (by omega) (by omega)
    rwa [Nat.add_sub_cancel' hfirst, Char.ofNat_toNat] at hc
  · have hblank : whiteSpace.all isBlank = true := by decide
    exact List.all_eq_true.1 hblank c

/-- Separators of files, and characters without a width, do not part words. -/
example : ['\x1c', '\u180e', '\u200b', '\u2060', '\ufeff'].filter isBlank = [] := by decide

/-- A text of blanks and nothing else, which may be empty. -/
def AllBlank (s : String) : Prop := ∀ c ∈ s.toList, isBlank c = true

/-- A text without its blanks. -/
def withoutBlanks (s : String) : String := String.ofList (s.toList.filter fun c => !isBlank c)

/-- Blanks are left out of each part of a text. -/
@[simp] lemma withoutBlanks_append :
    withoutBlanks (s ++ t) = withoutBlanks s ++ withoutBlanks t := by
  simp [withoutBlanks, String.ofList_append]

/-- Nothing but blanks is left out as a whole. -/
lemma withoutBlanks_eq_empty_iff : withoutBlanks s = "" ↔ AllBlank s := by
  rw [← String.toList_eq_nil_iff, withoutBlanks, String.toList_ofList]
  simp [AllBlank]

/-- Of blanks nothing is left. -/
lemma AllBlank.withoutBlanks_eq (h : AllBlank s) : withoutBlanks s = "" :=
  withoutBlanks_eq_empty_iff.2 h

/-- Of a word everything is left. -/
lemma IsWord.withoutBlanks_eq (h : IsWord w) : withoutBlanks w = w := by
  have hself : w.toList.filter (fun c => !isBlank c) = w.toList := by simpa using h.not_isBlank
  rw [withoutBlanks, hself, String.ofList_toList]

/-- A word begins with a character that is no blank. -/
lemma IsWord.exists_head? (h : IsWord w) : ∃ c, w.toList.head? = some c ∧ isBlank c = false := by
  obtain ⟨c, cs, hcons⟩ := List.exists_cons_of_ne_nil (mt String.toList_eq_nil_iff.1 h.ne_empty)
  exact ⟨c, by rw [hcons, List.head?_cons], h.not_isBlank c (by simp [hcons])⟩

/-- A word ends with a character that is no blank. -/
lemma IsWord.exists_getLast? (h : IsWord w) :
    ∃ c, w.toList.getLast? = some c ∧ isBlank c = false := by
  have hlast := List.getLast?_eq_some_getLast (mt String.toList_eq_nil_iff.1 h.ne_empty)
  exact ⟨_, hlast, h.not_isBlank _ (List.mem_of_getLast? hlast)⟩

/-! ## A sentence cut at blanks -/

/-- Blanks in front of a text belong to none of its words. -/
lemma splitWords_blanks_append {bs : List Char} (h : ∀ b ∈ bs, isBlank b = true) (cs : List Char) :
    splitWords (bs ++ cs) = splitWords cs := by
  induction bs with
  | nil => rfl
  | cons b bs ih =>
    obtain ⟨hb, hbs⟩ := List.forall_mem_cons.1 h
    have hcut := splitWords_append_blank hb [] (bs ++ cs)
    rw [List.nil_append, splitWords_nil, List.nil_append, ih hbs] at hcut
    exact hcut

/-- Blanks in front add no word. -/
lemma words_blanks_append (h : AllBlank gap) (s : String) : words (gap ++ s) = words s := by
  rw [words, String.toList_append, splitWords_blanks_append h]
  rfl

/-- **Blanks part a sentence**, and many blanks part it as one does. -/
theorem words_append_blanks (hne : gap ≠ "") (hgap : AllBlank gap) (s t : String) :
    words (s ++ gap ++ t) = words s ++ words t := by
  obtain ⟨b, bs, hcons⟩ := List.exists_cons_of_ne_nil (mt String.toList_eq_nil_iff.1 hne)
  rw [AllBlank, hcons] at hgap
  obtain ⟨hb, hbs⟩ := List.forall_mem_cons.1 hgap
  have hchars : (s ++ gap ++ t).toList = s.toList ++ b :: (bs ++ t.toList) := by simp [hcons]
  rw [words, hchars, splitWords_append_blank hb, splitWords_blanks_append hbs, List.map_append]
  rfl

/-! ## Words with blanks around them -/

/-- A word of a sentence and the blanks behind it. -/
structure PlacedWord where
  /-- The word. -/
  word : String
  /-- The blanks between the word and the next one, or the end of the sentence. -/
  blanks : String
  /-- The word is not empty and has no blank. -/
  isWord : IsWord word
  /-- Behind the word are blanks only. -/
  allBlank : AllBlank blanks

/-- The spacing of a sentence: any blanks, and then its words, each with blanks behind it. Behind
the last word there may be none, between two words there is one at least. -/
structure Spacing where
  /-- The blanks in front of the first word, or all blanks if there is no word. -/
  lead : String
  /-- The words, each with the blanks behind it. -/
  placed : List PlacedWord
  /-- In front of the first word are blanks only. -/
  allBlank : AllBlank lead
  /-- Between each word and the next is a blank. -/
  apart : placed.IsChain fun p _ => p.blanks ≠ ""

/-- Words and the blanks behind each, one after the other. -/
def spelled (placed : List PlacedWord) : String :=
  String.join (placed.map fun p => p.word ++ p.blanks)

variable {p : PlacedWord} {ps qs : List PlacedWord}

/-- Without words nothing is spelled. -/
@[simp] lemma spelled_nil : spelled [] = "" := rfl

/-- A word is spelled with the blanks behind it, then the others. -/
@[simp] lemma spelled_cons : spelled (p :: ps) = p.word ++ p.blanks ++ spelled ps := by
  simp [spelled, String.append_assoc]

/-- Two rows of words are spelled one behind the other. -/
@[simp] lemma spelled_append : spelled (ps ++ qs) = spelled ps ++ spelled qs := by
  simp [spelled]

/-- Without its blanks a spelled row is its words, joined. -/
lemma withoutBlanks_spelled :
    withoutBlanks (spelled ps) = String.join (ps.map PlacedWord.word) := by
  induction ps with
  | nil => rfl
  | cons p ps ih =>
    simp [ih, p.isWord.withoutBlanks_eq, p.allBlank.withoutBlanks_eq, String.append_assoc]

/-- The words of a spelled row are found again when blanks stand between them. -/
lemma words_spelled (h : ps.IsChain fun p _ => p.blanks ≠ "") :
    words (spelled ps) = ps.map PlacedWord.word := by
  induction ps with
  | nil => rfl
  | cons p ps ih =>
    obtain ⟨hnext, hrest⟩ := List.isChain_cons.1 h
    rw [spelled_cons, List.map_cons]
    by_cases hblanks : p.blanks = ""
    · -- without a blank behind it, the word is the last one
      cases ps with
      | nil => simp [hblanks, words_of_isWord p.isWord]
      | cons q ps => exact absurd hblanks (hnext q rfl)
    · rw [words_append_blanks hblanks p.allBlank, words_of_isWord p.isWord, ih hrest]
      rfl

namespace Spacing

/-- The sentence with this spacing. -/
def text (s : Spacing) : String := s.lead ++ spelled s.placed

/-- The words of the sentence, in order. -/
def words (s : Spacing) : List String := s.placed.map PlacedWord.word

/-- **Words with any spacing are found again.** -/
theorem words_text (s : Spacing) : Text.words s.text = s.words := by
  rw [text, words_blanks_append s.allBlank, words_spelled s.apart, words]

/-- One more character in front of a sentence. A blank goes with the other blanks there. Any other
character goes with the first word, unless blanks or nothing come behind it: then it is a word by
itself. -/
lemma exists_text_eq_append (c : Char) (s : Spacing) :
    ∃ t : Spacing, t.text = String.singleton c ++ s.text := by
  obtain ⟨lead, placed, hlead, hapart⟩ := s
  by_cases hc : isBlank c = true
  · have hblank : AllBlank (String.singleton c ++ lead) := by
      simpa [AllBlank] using ⟨hc, hlead⟩
    exact ⟨⟨_, placed, hblank, hapart⟩, by simp [text, String.append_assoc]⟩
  · rw [Bool.not_eq_true] at hc
    have hnone : AllBlank "" := by simp [AllBlank]
    by_cases hfirst : lead = "" ∧ placed ≠ []
    · obtain ⟨rfl, hne⟩ := hfirst
      obtain ⟨p, ps, rfl⟩ := List.exists_cons_of_ne_nil hne
      have hword : IsWord (String.singleton c ++ p.word) :=
        ⟨by simp, by simpa using ⟨hc, p.isWord.not_isBlank⟩⟩
      exact ⟨⟨"", ⟨_, p.blanks, hword, p.allBlank⟩ :: ps, hnone,
        List.isChain_cons.2 (List.isChain_cons.1 hapart)⟩, by simp [text, String.append_assoc]⟩
    · have hword : IsWord (String.singleton c) := ⟨by simp, by simpa using hc⟩
      have hplaced : List.IsChain (fun p _ => p.blanks ≠ "")
          (⟨_, lead, hword, hlead⟩ :: placed : List PlacedWord) := by
        refine List.isChain_cons.2 ⟨fun p hp hempty => ?_, hapart⟩
        exact hfirst ⟨hempty, by rintro rfl; cases hp⟩
      exact ⟨⟨"", _, hnone, hplaced⟩, by simp [text, String.append_assoc]⟩

/-- **Every sentence has a spacing.** -/
theorem exists_text_eq (sentence : String) : ∃ s : Spacing, s.text = sentence := by
  suffices h : ∀ cs : List Char, ∃ s : Spacing, s.text = String.ofList cs by
    simpa using h sentence.toList
  intro cs
  induction cs with
  | nil => exact ⟨⟨"", [], by simp [AllBlank], List.isChain_nil⟩, rfl⟩
  | cons c cs ih =>
    obtain ⟨s, hs⟩ := ih
    obtain ⟨t, ht⟩ := exists_text_eq_append c s
    exact ⟨t, by rw [ht, hs, String.ofList_cons]⟩

end Spacing

/-- The words of a sentence have its characters, but for the blanks. -/
theorem join_words (sentence : String) :
    String.join (words sentence) = withoutBlanks sentence := by
  obtain ⟨s, rfl⟩ := Spacing.exists_text_eq sentence
  rw [s.words_text, Spacing.text, withoutBlanks_append, s.allBlank.withoutBlanks_eq,
    withoutBlanks_spelled, Spacing.words, String.empty_append]

/-- A sentence that is more than blanks has a word. -/
lemma words_ne_nil (hc : c ∈ sentence.toList) (hblank : isBlank c = false) :
    words sentence ≠ [] := by
  intro hnil
  have hjoin := join_words sentence
  rw [hnil, String.join_nil, eq_comm, withoutBlanks_eq_empty_iff] at hjoin
  rw [hjoin c hc] at hblank
  cases hblank

/-! ## Gaps -/

/-- A gap of a sentence: a run of blanks between two characters that are no blanks. So the run is as
long as it can be. -/
@[ext]
structure Gap (sentence : String) where
  /-- The sentence before the gap. -/
  left : String
  /-- The blanks. -/
  blanks : String
  /-- The sentence behind the gap. -/
  right : String
  /-- The gap parts the sentence. -/
  eq_append : sentence = left ++ blanks ++ right
  /-- There is a blank. -/
  ne_empty : blanks ≠ ""
  /-- There are blanks only. -/
  allBlank : AllBlank blanks
  /-- The character before the gap is no blank. -/
  left_ends : ∃ c, left.toList.getLast? = some c ∧ isBlank c = false
  /-- The character behind the gap is no blank. -/
  right_begins : ∃ c, right.toList.head? = some c ∧ isBlank c = false

namespace Gap

variable {g g' : Gap sentence}

/-- Of two gaps with the same characters before them but for the blanks, none comes later. -/
lemma left_eq_of_isPrefix (hstart : g.left.toList <+: g'.left.toList)
    (h : withoutBlanks g.left = withoutBlanks g'.left) : g.left = g'.left := by
  obtain ⟨more, hmore⟩ := hstart
  have happend : g'.left = g.left ++ String.ofList more := by
    rw [← String.toList_inj, ← hmore, String.toList_append, String.toList_ofList]
  -- what the later gap has before it beyond the earlier one are blanks, so it cannot end in them
  have hblank : AllBlank (String.ofList more) := by
    rw [happend, withoutBlanks_append] at h
    exact withoutBlanks_eq_empty_iff.1 (by simpa using h.symm)
  obtain ⟨c, hlast, hc⟩ := g'.left_ends
  by_cases hnil : more = []
  · simp [happend, hnil]
  · rw [← hmore, List.getLast?_append_of_ne_nil _ hnil] at hlast
    rw [hblank c (by simpa using List.mem_of_getLast? hlast)] at hc
    cases hc

/-- What stands left of a gap begins the sentence. -/
lemma isPrefix_left (g : Gap sentence) : g.left.toList <+: sentence.toList :=
  ⟨(g.blanks ++ g.right).toList, by
    rw [← String.toList_append, ← String.append_assoc, ← g.eq_append]⟩

/-- The blanks of a gap are all the blanks behind what is before it. -/
lemma takeWhile_blanks_append (g : Gap sentence) :
    (g.blanks ++ g.right).toList.takeWhile isBlank = g.blanks.toList := by
  obtain ⟨c, hhead, hc⟩ := g.right_begins
  obtain ⟨cs, hcons⟩ := List.head?_eq_some_iff.1 hhead
  rw [String.toList_append, List.takeWhile_append_of_pos g.allBlank, hcons,
    List.takeWhile_cons_of_neg (by simp [hc]), List.append_nil]

/-- **Gaps lie apart**: a gap is known by the characters before it, but for the blanks. -/
theorem eq_of_withoutBlanks_eq (h : withoutBlanks g.left = withoutBlanks g'.left) : g = g' := by
  have hleft : g.left = g'.left := by
    rcases List.prefix_or_prefix_of_prefix g.isPrefix_left g'.isPrefix_left with hstart | hstart
    · exact left_eq_of_isPrefix hstart h
    · exact (left_eq_of_isPrefix hstart h.symm).symm
  have hrest : g.blanks ++ g.right = g'.blanks ++ g'.right := by
    have hsentence := g.eq_append.symm.trans g'.eq_append
    rwa [hleft, String.append_assoc, String.append_assoc, String.append_right_inj] at hsentence
  have hblanks : g.blanks = g'.blanks := by
    rw [← String.toList_inj, ← g.takeWhile_blanks_append, hrest, g'.takeWhile_blanks_append]
  rw [hblanks, String.append_right_inj] at hrest
  exact Gap.ext hleft hblanks hrest

end Gap

/-! ## Boundaries -/

/-- The places between two words of a row, by the characters before and behind them. -/
def IsBoundary (ws : List String) (before behind : String) : Prop :=
  ∃ front back, ws = front ++ back ∧ front ≠ [] ∧ back ≠ [] ∧
    String.join front = before ∧ String.join back = behind

/-- A gap is a boundary. -/
lemma Gap.isBoundary (g : Gap sentence) :
    IsBoundary (words sentence) (withoutBlanks g.left) (withoutBlanks g.right) := by
  obtain ⟨c, hc, hcblank⟩ := g.left_ends
  obtain ⟨d, hd, hdblank⟩ := g.right_begins
  refine ⟨words g.left, words g.right, ?_, words_ne_nil (List.mem_of_getLast? hc) hcblank,
    words_ne_nil (List.mem_of_mem_head? hd) hdblank, join_words g.left, join_words g.right⟩
  rw [← words_append_blanks g.ne_empty g.allBlank, ← g.eq_append]

/-- The gap between two neighbouring words of a spacing. -/
def Spacing.gapBetween {q : PlacedWord} (s : Spacing) (h : s.placed = ps ++ [p] ++ q :: qs) :
    Gap s.text where
  left := s.lead ++ spelled ps ++ p.word
  blanks := p.blanks
  right := spelled (q :: qs)
  eq_append := by simp [text, h, String.append_assoc]
  ne_empty := by
    have hapart := s.apart
    rw [h] at hapart
    exact (List.isChain_append.1 hapart).2.2 p (by simp) q (by simp)
  allBlank := p.allBlank
  left_ends := by
    obtain ⟨c, hc, hblank⟩ := p.isWord.exists_getLast?
    rw [String.toList_append]
    exact ⟨c, List.mem_getLast?_append_of_mem_getLast? hc, hblank⟩
  right_begins := by
    obtain ⟨c, hc, hblank⟩ := q.isWord.exists_head?
    rw [spelled_cons, String.append_assoc, String.toList_append]
    exact ⟨c, List.mem_head?_append_of_mem_head? hc, hblank⟩

/-- A boundary is at the gap behind the word that ends there. -/
lemma Spacing.exists_gap (s : Spacing) (h : IsBoundary s.words before behind) :
    ∃ g : Gap s.text, withoutBlanks g.left = before ∧ withoutBlanks g.right = behind := by
  obtain ⟨front, back, hwords, hfront, hback, rfl, rfl⟩ := h
  obtain ⟨placed, next, hplaced, rfl, rfl⟩ := List.map_eq_append_iff.1 hwords
  obtain ⟨ps, p, rfl⟩ := List.eq_nil_or_concat' placed |>.resolve_left (mt (congrArg _) hfront)
  obtain ⟨q, qs, rfl⟩ := List.exists_cons_of_ne_nil (mt (congrArg (List.map _)) hback)
  refine ⟨s.gapBetween hplaced, ?_, withoutBlanks_spelled⟩
  simp [gapBetween, s.allBlank.withoutBlanks_eq, withoutBlanks_spelled, p.isWord.withoutBlanks_eq]

/-- **The words of a sentence**, said without cutting it: they are words, together they are the
sentence but for its blanks, and one ends and the next begins exactly at its gaps. -/
structure AreWordsOf (ws : List String) (sentence : String) : Prop where
  /-- They are not empty and have no blanks. -/
  isWord : ∀ w ∈ ws, IsWord w
  /-- Together they are the sentence without its blanks. -/
  join_eq : String.join ws = withoutBlanks sentence
  /-- At each boundary is one gap, and at each gap a boundary. -/
  boundary_iff : ∀ before behind, IsBoundary ws before behind ↔
    ∃! g : Gap sentence, withoutBlanks g.left = before ∧ withoutBlanks g.right = behind

/-- **Cutting finds the words of a sentence.** -/
theorem areWordsOf_words (sentence : String) : AreWordsOf (words sentence) sentence where
  isWord w hw := isWord_of_mem_words hw
  join_eq := join_words sentence
  boundary_iff before behind := by
    constructor
    · intro h
      obtain ⟨s, rfl⟩ := Spacing.exists_text_eq sentence
      rw [s.words_text] at h
      obtain ⟨g, rfl, rfl⟩ := s.exists_gap h
      exact ⟨g, ⟨rfl, rfl⟩, fun g' hg' => Gap.eq_of_withoutBlanks_eq hg'.1⟩
    · rintro ⟨g, ⟨rfl, rfl⟩, -⟩
      exact g.isBoundary

/-! ## No other words -/

/-- The boundaries of a longer row: one behind the new word, and those there were. -/
lemma isBoundary_cons_iff : IsBoundary (w :: ws) before behind ↔
    (ws ≠ [] ∧ before = w ∧ behind = String.join ws) ∨
      ∃ more, before = w ++ more ∧ IsBoundary ws more behind := by
  constructor
  · rintro ⟨front, back, hws, hfront, hback, rfl, rfl⟩
    obtain ⟨v, front, rfl⟩ := List.exists_cons_of_ne_nil hfront
    obtain ⟨rfl, rfl⟩ := List.cons.inj hws
    by_cases hnil : front = []
    · subst hnil
      exact .inl ⟨hback, by simp, rfl⟩
    · exact .inr ⟨_, String.join_cons, front, back, rfl, hnil, hback, rfl, rfl⟩
  · rintro (⟨hne, rfl, rfl⟩ | ⟨_, rfl, front, back, rfl, -, hback, rfl, rfl⟩)
    · exact ⟨[before], ws, rfl, by simp, hne, by simp, rfl⟩
    · exact ⟨w :: front, back, rfl, by simp, hback, String.join_cons, rfl⟩

/-- There is a word before a boundary. -/
lemma IsBoundary.before_ne_empty (hws : ∀ w ∈ ws, w ≠ "") (h : IsBoundary ws before behind) :
    before ≠ "" := by
  obtain ⟨front, back, rfl, hfront, -, rfl, -⟩ := h
  obtain ⟨w, front, rfl⟩ := List.exists_cons_of_ne_nil hfront
  have hw : w ≠ "" := hws w (by simp)
  simp [hw]

/-- Behind the first word, the boundaries are those of the others. -/
lemma isBoundary_cons_append_iff (hne : before ≠ "") :
    IsBoundary (w :: ws) (w ++ before) behind ↔ IsBoundary ws before behind := by
  rw [isBoundary_cons_iff]
  constructor
  · rintro (⟨-, heq, -⟩ | ⟨more, heq, hmore⟩)
    · exact absurd heq (by simpa using hne)
    · rwa [(String.append_right_inj w).1 heq]
  · exact fun h => .inr ⟨before, rfl, h⟩

/-- If a row has the characters of another and all its boundaries, then the first word of the other
begins with its first word. -/
lemma prefix_of_isBoundary_imp (hjoin : String.join (w :: ws) = String.join (v :: vs))
    (h : ∀ before behind, IsBoundary (w :: ws) before behind → IsBoundary (v :: vs) before behind) :
    v.toList <+: w.toList := by
  by_cases hnil : ws = []
  · -- the other row is one word, which has all the characters
    simp only [hnil, String.join_cons, String.join_nil, String.append_empty] at hjoin
    exact ⟨_, by rw [hjoin, String.toList_append]⟩
  · have hfirst := h w _ (isBoundary_cons_iff.2 (.inl ⟨hnil, rfl, rfl⟩))
    obtain ⟨-, rfl, -⟩ | ⟨more, rfl, -⟩ := isBoundary_cons_iff.1 hfirst
    · exact List.prefix_rfl
    · exact ⟨more.toList, by rw [String.toList_append]⟩

/-- **Characters and boundaries determine the words.**

**Proof sketch.** By induction on the words. The boundary behind the first word of one row is one of
the other row, so each of the two first words begins with the other; they are the same, and the
boundaries behind them are those of the remaining words. -/
theorem eq_of_isBoundary_iff (hws : ∀ w ∈ ws, w ≠ "") (hvs : ∀ v ∈ vs, v ≠ "")
    (hjoin : String.join ws = String.join vs)
    (h : ∀ before behind, IsBoundary ws before behind ↔ IsBoundary vs before behind) : ws = vs := by
  induction ws generalizing vs with
  | nil =>
    cases vs with
    | nil => rfl
    | cons v vs =>
      rw [String.join_nil, String.join_cons, eq_comm, String.append_eq_empty_iff] at hjoin
      exact absurd hjoin.1 (hvs v List.mem_cons_self)
  | cons w ws ih =>
    cases vs with
    | nil =>
      rw [String.join_nil, String.join_cons, String.append_eq_empty_iff] at hjoin
      exact absurd hjoin.1 (hws w List.mem_cons_self)
    | cons v vs =>
      have hvw := prefix_of_isBoundary_imp hjoin fun before behind => (h before behind).1
      have hwv := prefix_of_isBoundary_imp hjoin.symm fun before behind => (h before behind).2
      obtain rfl : v = w := String.toList_inj.1 (hvw.eq_of_length_le hwv.length_le)
      rw [List.forall_mem_cons] at hws hvs
      rw [String.join_cons, String.join_cons, String.append_right_inj] at hjoin
      rw [ih hws.2 hvs.2 hjoin fun before behind => ?_]
      by_cases hempty : before = ""
      · exact iff_of_false (fun hb => hb.before_ne_empty hws.2 hempty)
          (fun hb => hb.before_ne_empty hvs.2 hempty)
      · rw [← isBoundary_cons_append_iff hempty, h, isBoundary_cons_append_iff hempty]

/-- **A sentence has no other words.** -/
theorem AreWordsOf.unique (hws : AreWordsOf ws sentence) (hvs : AreWordsOf vs sentence) :
    ws = vs :=
  eq_of_isBoundary_iff (fun w hw => (hws.isWord w hw).ne_empty)
    (fun v hv => (hvs.isWord v hv).ne_empty) (hws.join_eq.trans hvs.join_eq.symm)
    fun _ _ => (hws.boundary_iff _ _).trans (hvs.boundary_iff _ _).symm

/-! ## Both descriptions -/

/-- The words of a sentence are the list that has its characters and its gaps. -/
lemma words_eq_iff_areWordsOf : words sentence = ws ↔ AreWordsOf ws sentence :=
  ⟨fun h => h ▸ areWordsOf_words sentence, (areWordsOf_words sentence).unique⟩

/-- The words of a sentence are the list that some blanks turn into the sentence. -/
lemma words_eq_iff_exists_spacing :
    words sentence = ws ↔ ∃ s : Spacing, s.text = sentence ∧ s.words = ws := by
  constructor
  · rintro rfl
    obtain ⟨s, rfl⟩ := Spacing.exists_text_eq sentence
    exact ⟨s, rfl, s.words_text.symm⟩
  · rintro ⟨s, rfl, rfl⟩
    exact s.words_text

/-- **Cutting a sentence into words loses, joins and invents nothing.** The blanks are the
characters with the Unicode property `White_Space`. Some texts are the words found in a sentence
exactly when they are words, are together the sentence but for its blanks, and have their boundaries
at its gaps; and exactly when the sentence is these words with any blanks in front and behind, and
any but none between them. The phrase of a slot is cut in the same way.

**Proof sketch.** A character in front of a sentence changes its spacing in one place
(`Spacing.exists_text_eq_append`), so every sentence has a spacing. Blanks part a sentence
(`words_append_blanks`), so the words of a spacing are found again, and their boundaries are at the
blanks between them. No other row of words has the same characters and boundaries
(`eq_of_isBoundary_iff`). -/
theorem words_eq_iff_spacing :
    (∀ c, isBlank c = true ↔ c ∈ whiteSpace) ∧
      (∀ sentence ws, words sentence = ws ↔ AreWordsOf ws sentence) ∧
      (∀ sentence ws, words sentence = ws ↔ ∃ s : Spacing, s.text = sentence ∧ s.words = ws) ∧
      ∀ s : Spacing, Slot.ofPhrase s.text = .fixed s.words := by
  refine ⟨fun c => isBlank_iff_mem_whiteSpace, fun sentence ws => words_eq_iff_areWordsOf,
    fun sentence ws => words_eq_iff_exists_spacing, fun s => ?_⟩
  rw [Slot.ofPhrase, s.words_text]

/-- Blanks in front, behind, of many kinds and in a row. -/
example : words "\u00a0 wake\t\u2003me\u0085\x0bup\u3000\n" = ["wake", "me", "up"] := by decide

end Utterance.Text
