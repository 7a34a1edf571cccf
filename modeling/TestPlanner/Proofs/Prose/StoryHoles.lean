import TestPlanner.Proofs.Prose.FormalStory
import TestPlanner.Proofs.Prose.StoryParts

/-!
# Holes in the phrases of a story

A part of a story is blank only at a hole of the text: where two words of a formal sentence have
nothing but blanks between them, where the last of them has nothing but blanks behind it, or where a
text ends in blanks behind the letters of `story` (`hasHole_of_decides`). The words are followed
along the phrase; at each part, either it is blank and the hole is there, or a later part is.

So a text without a hole gives a story that is filled (`story_filled_iff`), and a label with a blank
behind it gives one that is not (`action_left_empty`).
-/

set_option autoImplicit false

namespace TestPlanner.Prose

open Text Phrase

/-! ## Holes -/

/-- Blanks, at least as many as given. -/
structure Blanks (n : Nat) (s : List Char) : Prop where
  blank : ∀ c ∈ s, isBlank c = true
  long : n ≤ s.length

theorem Blanks.append {m n : Nat} {s t : List Char} (first : Blanks m s) (second : Blanks n t) :
    Blanks (m + n) (s ++ t) where
  blank := List.forall_mem_append.mpr ⟨first.blank, second.blank⟩
  long := by
    rw [List.length_append]
    exact Nat.add_le_add first.long second.long

theorem blanks_of_isGap {gap : List Char} (isGap : IsGap gap) : Blanks 1 gap :=
  ⟨isGap.blank, List.length_pos_of_ne_nil isGap.nonempty⟩

theorem blanks_of_not_shown {part : List Char} (nonempty : part ≠ []) (hidden : ¬ Shown part) :
    Blanks 1 part :=
  ⟨not_shown_iff.mp hidden, List.length_pos_of_ne_nil nonempty⟩

/-- Words of a story between which a part stands. -/
def Frames (front back : List Char) : Prop :=
  front ∈ ["as a".toList, "as an".toList] ∧ back ∈ actionConnectives ∨
    front ∈ actionConnectives ∧ back ∈ benefitConnectives ∨
      front = "given".toList ∧ back = "when".toList ∨ front = "when".toList ∧ back = "then".toList

/-- Words of a story behind which its last part stands. -/
def Closes (word : List Char) : Prop := word ∈ benefitConnectives ∨ word = "then".toList

/-- Words of a story with blanks alone where a part should stand. -/
inductive Hole : List Char → Prop where
  /-- between two words, three blanks or more -/
  | between {front blanks back rest frontWord backWord : List Char}
      (frames : Frames frontWord backWord) (opened : Spells front frontWord)
      (closed : Spells back backWord) (wide : Blanks 3 blanks) :
      Hole (front ++ (blanks ++ (back ++ rest)))
  /-- behind the last word, two blanks or more, and the end of the sentence -/
  | last {front blanks rest word : List Char} (closes : Closes word) (opened : Spells front word)
      (wide : Blanks 2 blanks) (ends : rest = [] ∨ rest.head? = some '.') :
      Hole (front ++ (blanks ++ rest))
  /-- behind the letters of a label, colons and blanks up to the end of the text, where a blank is
  the last save for line feeds -/
  | label {word gap feeds : List Char} {c : Char} (spelled : Spells word "story".toList)
      (passed : ∀ d ∈ gap, isLabelGap d = true) (blank : isBlank c = true)
      (fed : ∀ d ∈ feeds, d = '\n') : Hole (word ++ (gap ++ c :: feeds))

/-- A text has a hole somewhere. -/
def HasHole (text : List Char) : Prop := ∃ left right, text = left ++ right ∧ Hole right

theorem Hole.hasHole {s : List Char} (hole : Hole s) : HasHole s := ⟨[], s, rfl, hole⟩

theorem HasHole.append {s : List Char} (has : HasHole s) (front : List Char) :
    HasHole (front ++ s) := by
  obtain ⟨left, right, rfl, hole⟩ := has
  exact ⟨front ++ left, right, by rw [List.append_assoc], hole⟩

/-- A blank part between two words is a hole. -/
theorem hasHole_part {front before part after back frontWord backWord : List Char}
    (frames : Frames frontWord backWord) (opened : Spells front frontWord)
    (closed : Spells back backWord) (start : Blanks 1 before) (nonempty : part ≠ [])
    (hidden : ¬ Shown part) (stop : Blanks 1 after) (rest : List Char) :
    HasHole (front ++ (before ++ (part ++ (after ++ (back ++ rest))))) := by
  have wide := (start.append (blanks_of_not_shown nonempty hidden)).append stop
  have hole : Hole (front ++ (before ++ part ++ after ++ (back ++ rest))) :=
    .between frames opened closed wide
  simpa only [List.append_assoc] using hole.hasHole

/-- A blank part behind the last word is a hole. -/
theorem hasHole_lastPart {front before part rest word : List Char} (closes : Closes word)
    (opened : Spells front word) (start : Blanks 1 before) (nonempty : part ≠ [])
    (hidden : ¬ Shown part) (ends : rest = [] ∨ rest.head? = some '.') :
    HasHole (front ++ (before ++ (part ++ rest))) := by
  have wide := start.append (blanks_of_not_shown nonempty hidden)
  have hole : Hole (front ++ (before ++ part ++ rest)) := .last closes opened wide ends
  simpa only [List.append_assoc] using hole.hasHole

section

variable {s word chars : List Char} {parts : List (List Char)}

/-! ### Formal sentences -/

theorem hasHole_behindAim (aimed : word ∈ benefitConnectives) (spelled : Spells chars word)
    (reads : behindAim.Reads s parts) (hidden : ∃ part ∈ parts, ¬ Shown part) :
    HasHole (chars ++ s) := by
  obtain ⟨gap, _, rfl, isGap, benefit, rest, _, rfl, nonempty, _, rfl, ends, rfl⟩ := reads
  obtain ⟨part, listed, blank⟩ := hidden
  rw [List.mem_singleton.mp listed] at blank
  exact hasHole_lastPart (.inl aimed) spelled (blanks_of_isGap isGap) nonempty blank ends

theorem hasHole_behindWish (wished : word ∈ actionConnectives) (spelled : Spells chars word)
    (reads : behindWish.Reads s parts) (hidden : ∃ part ∈ parts, ¬ Shown part) :
    HasHole (chars ++ s) := by
  obtain ⟨gap, _, rfl, isGap, action, behind, others, rfl, nonempty, _, rfl, aim, aimed, gap', _,
    rest, rfl, isGap', read, later⟩ := reads
  obtain ⟨aimChars, rfl, spelled'⟩ :=
    (phrase?_eq_some_iff (connectives_benefit.small aim aimed)).mp read
  obtain ⟨part, listed, blank⟩ := hidden
  rcases List.mem_cons.mp listed with rfl | listed
  · exact hasHole_part (.inr (.inl ⟨wished, aimed⟩)) spelled spelled' (blanks_of_isGap isGap)
      nonempty blank (blanks_of_isGap isGap') rest
  · have has := hasHole_behindAim aimed spelled' later ⟨part, listed, blank⟩
    simpa only [List.append_assoc] using has.append (chars ++ (gap ++ (action ++ gap')))

/-- An opening is a word with a blank behind it. -/
theorem IsOpening.exists_word {opening : List Char} (opens : IsOpening opening) :
    ∃ chars word, opening = chars ++ [' '] ∧ word ∈ ["as a".toList, "as an".toList] ∧
      Spells chars word := by
  obtain ⟨chars, spelled, rfl | ⟨n, form, rfl⟩⟩ := opens.cases
  · exact ⟨chars, _, rfl, List.mem_cons_self, spelled⟩
  · refine ⟨chars ++ [n], "as an".toList, by simp, by simp, ?_⟩
    rw [Spells, List.map_append, spelled, List.map_singleton, form]
    decide

theorem blanks_space : Blanks 1 [' '] :=
  ⟨List.forall_mem_singleton.mpr (by decide), le_rfl⟩

/-- **A formal sentence with a blank part has a hole there.** -/
theorem hasHole_formalSentence (reads : formalSentence.Reads s parts)
    (hidden : ∃ part ∈ parts, ¬ Shown part) : HasHole s := by
  obtain ⟨_, _, rfl, opens, actor, _, others, rfl, nonempty, _, rfl, wish, wished, gap, _, rest, rfl,
    isGap, read, later⟩ := exists_opening reads
  obtain ⟨chars, word, rfl, opened, spelled⟩ := opens.exists_word
  obtain ⟨wishChars, rfl, spelled'⟩ :=
    (phrase?_eq_some_iff (connectives_action.small wish wished)).mp read
  obtain ⟨part, listed, blank⟩ := hidden
  rw [List.append_assoc]
  rcases List.mem_cons.mp listed with rfl | listed
  · exact hasHole_part (.inl ⟨opened, wished⟩) spelled spelled' blanks_space nonempty blank
      (blanks_of_isGap isGap) rest
  · have has := hasHole_behindWish wished spelled' later ⟨part, listed, blank⟩
    simpa only [List.append_assoc] using has.append (chars ++ ([' '] ++ (actor ++ gap)))

/-! ### Given, when, then -/

theorem spells_space {chars : List Char} (spelled : Spells chars [' ']) : chars = [' '] := by
  obtain ⟨c, rfl, form⟩ := List.map_eq_singleton_iff.mp spelled
  rw [eq_of_folded (by decide) form]

/-- A spelling of a word and a space. -/
theorem exists_before_space {spaced : List Char} (form : spaced = word ++ [' '])
    (spelled : Spells chars spaced) : ∃ inner, chars = inner ++ [' '] ∧ Spells inner word := by
  rw [Spells, form] at spelled
  obtain ⟨inner, space, rfl, own, last⟩ := List.map_eq_append_iff.mp spelled
  rw [spells_space last]
  exact ⟨inner, rfl, own⟩

/-- A spelling of a word between spaces. -/
theorem exists_between_spaces {spaced : List Char} (form : spaced = [' '] ++ (word ++ [' ']))
    (spelled : Spells chars spaced) :
    ∃ inner, chars = [' '] ++ (inner ++ [' ']) ∧ Spells inner word := by
  rw [Spells, form] at spelled
  obtain ⟨space, rest, rfl, first, later⟩ := List.map_eq_append_iff.mp spelled
  obtain ⟨inner, rfl, own⟩ := exists_before_space rfl later
  rw [spells_space first]
  exact ⟨inner, rfl, own⟩

/-- The steps of a `given … when … then …` sentence behind `then`. -/
def behindThen : Phrase := [.part, .stop '.']

/-- The steps of a `given … when … then …` sentence behind `when`. -/
def behindWhen : Phrase := .part :: .word " then ".toList :: behindThen

theorem hasHole_behindThen (spelled : Spells chars "then".toList)
    (reads : behindThen.Reads s parts) (hidden : ∃ part ∈ parts, ¬ Shown part) :
    HasHole (chars ++ ([' '] ++ s)) := by
  obtain ⟨benefit, rest, _, rfl, nonempty, _, rfl, ends, rfl⟩ := reads
  obtain ⟨part, listed, blank⟩ := hidden
  rw [List.mem_singleton.mp listed] at blank
  exact hasHole_lastPart (.inr rfl) spelled blanks_space nonempty blank ends

theorem hasHole_behindWhen (spelled : Spells chars "when".toList)
    (reads : behindWhen.Reads s parts) (hidden : ∃ part ∈ parts, ¬ Shown part) :
    HasHole (chars ++ ([' '] ++ s)) := by
  obtain ⟨action, _, others, rfl, nonempty, _, rfl, rest, read, later⟩ := reads
  obtain ⟨_, rfl, around⟩ := (phrase?_eq_some_iff (by decide)).mp read
  obtain ⟨inner, rfl, spelled'⟩ : ∃ inner, _ ∧ Spells inner "then".toList :=
    exists_between_spaces (by decide) around
  obtain ⟨part, listed, blank⟩ := hidden
  simp only [List.append_assoc]
  rcases List.mem_cons.mp listed with rfl | listed
  · exact hasHole_part (.inr (.inr (.inr ⟨rfl, rfl⟩))) spelled spelled' blanks_space nonempty blank
      blanks_space ([' '] ++ rest)
  · have has := hasHole_behindThen spelled' later ⟨part, listed, blank⟩
    simpa only [List.append_assoc] using has.append (chars ++ ([' '] ++ (action ++ [' '])))

/-- **A `given … when … then …` sentence with a blank part has a hole there.** -/
theorem hasHole_givenSentence (reads : givenSentence.Reads s parts)
    (hidden : ∃ part ∈ parts, ¬ Shown part) : HasHole s := by
  obtain ⟨_, read, actor, _, others, rfl, nonempty, _, rfl, rest, read', later⟩ := reads
  obtain ⟨_, rfl, front⟩ := (phrase?_eq_some_iff (by decide)).mp read
  obtain ⟨_, rfl, around⟩ := (phrase?_eq_some_iff (by decide)).mp read'
  obtain ⟨chars, rfl, spelled⟩ : ∃ inner, _ ∧ Spells inner "given".toList :=
    exists_before_space (by decide) front
  obtain ⟨inner, rfl, spelled'⟩ : ∃ inner, _ ∧ Spells inner "when".toList :=
    exists_between_spaces (by decide) around
  obtain ⟨part, listed, blank⟩ := hidden
  simp only [List.append_assoc]
  rcases List.mem_cons.mp listed with rfl | listed
  · exact hasHole_part (.inr (.inr (.inl ⟨rfl, rfl⟩))) spelled spelled' blanks_space nonempty blank
      blanks_space ([' '] ++ rest)
  · have has := hasHole_behindWhen spelled' later ⟨part, listed, blank⟩
    simpa only [List.append_assoc] using has.append (chars ++ ([' '] ++ (actor ++ [' '])))

end

/-! ### Labels -/

/-- **Where the part of a label is blank, a blank is the last of the text save for line feeds.** The
gap in front of the part is as long as it can be. So nothing that a part might start with comes
behind the blank with which the part starts. -/
theorem exists_label_end {label s part : List Char} (small : Small label)
    (prefers : (labelled label).Prefers s [part]) (hidden : ¬ Shown part) :
    ∃ word gap c feeds, s = word ++ (gap ++ c :: feeds) ∧ Spells word label ∧
      (∀ d ∈ gap, isLabelGap d = true) ∧ isBlank c = true ∧ ∀ d ∈ feeds, d = '\n' := by
  obtain ⟨_, read, gap, _, rfl, passed, behind, longest⟩ := prefers
  obtain ⟨own, rest, _, rfl, nonempty, _, same, _⟩ := behind
  obtain ⟨rfl, _⟩ := List.cons.inj same
  obtain ⟨word, rfl, spelled⟩ := (phrase?_eq_some_iff small).mp read
  obtain ⟨c, part, rfl⟩ := List.exists_cons_of_ne_nil nonempty
  obtain ⟨blank, _⟩ := List.forall_mem_cons.mp (not_shown_iff.mp hidden)
  obtain ⟨feeds, tail, split, fed, stops⟩ := exists_run (· == '\n') (part ++ rest)
  have fed : ∀ d ∈ feeds, d = '\n' := fun d member => beq_iff_eq.mp (fed d member)
  cases tail with
  | nil =>
    rw [List.append_nil] at split
    refine ⟨word, gap, c, feeds, ?_, spelled, passed, blank, fed⟩
    rw [List.cons_append, split]
  | cons d tail =>
    -- the part could start at that character, behind a longer gap
    refine absurd (readable_line (by simpa using stops d rfl) tail) (longest (c :: feeds) _ ?_ ?_ ?_)
    · rw [List.cons_append, split, List.cons_append]
    · exact List.cons_ne_nil c feeds
    · intro e member
      rcases List.mem_cons.mp member with rfl | member
      · rw [isLabelGap, blank, Bool.or_true]
      · rw [fed e member]
        decide

theorem hasHole_labelParts {text action : List Char} (labels : LabelParts text [action])
    (hidden : ¬ Shown action) : HasHole text := by
  rcases labels with ⟨left, right, rfl, prefers, _⟩ | ⟨_, left, right, rfl, prefers, _⟩
  · obtain ⟨word, gap, c, feeds, rfl, spelled, passed, blank, fed⟩ :=
      exists_label_end small_userStory prefers hidden
    obtain ⟨user, story, rfl, last⟩ := exists_story_of_userStory spelled
    have hole : Hole (story ++ (gap ++ c :: feeds)) := .label last passed blank fed
    simpa only [List.append_assoc] using hole.hasHole.append (left ++ user)
  · obtain ⟨word, gap, c, feeds, rfl, spelled, passed, blank, fed⟩ :=
      exists_label_end small_story prefers hidden
    have hole : Hole (word ++ (gap ++ c :: feeds)) := .label spelled passed blank fed
    exact hole.hasHole.append left

/-! ## Filled stories -/

/-- **The parts that decide a story are blank only at a hole of the text.** -/
theorem hasHole_of_decides {text : List Char} {parts : List (List Char)}
    (decides : Decides text parts) (hidden : ∃ part ∈ parts, ¬ Shown part) : HasHole text := by
  rcases decides with (found | ⟨_, found⟩) | ⟨_, labels⟩
  · obtain ⟨left, right, rfl, reads⟩ := found.reads
    exact (hasHole_formalSentence reads hidden).append left
  · obtain ⟨left, right, rfl, reads⟩ := found.reads
    exact (hasHole_givenSentence reads hidden).append left
  · obtain ⟨action, rfl⟩ := List.length_eq_one_iff.mp (labels.length rfl rfl)
    obtain ⟨part, listed, blank⟩ := hidden
    rw [List.mem_singleton.mp listed] at blank
    exact hasHole_labelParts labels blank

/-- **What the parts of a story show,** with the lexicon or without a marker, for every text.

- No part begins or ends with a blank.
- Every part shows something exactly if every part that decides the story does.
- That is so in particular if the text has no hole. -/
theorem story_filled_iff (text : List Char) (lexical : Bool) :
    let story := userStory text (if lexical then some lexiconMarker else none)
    (∀ part ∈ storyParts story, Visible part) ∧
      (Filled story ↔ ∀ parts, Decides text parts → ∀ part ∈ parts, Shown part) ∧
      (¬ HasHole text → Filled story) := by
  intro story
  have exact : Filled story ↔ ∀ parts, Decides text parts → ∀ part ∈ parts, Shown part := by
    refine filled_iff text _ ?_
    intro marker given m marked
    cases lexical with
    | false => cases given
    | true =>
      rw [← Option.mem_some_iff.mp given, lexiconMarker, Option.mem_some_iff] at marked
      rw [← marked]
      exact shownMarking_mark text
  refine ⟨fun part listed => visible_of_mem_storyParts listed, exact, ?_⟩
  intro whole
  rw [exact]
  intro parts decides part listed
  by_contra hidden
  exact whole (hasHole_of_decides decides ⟨part, listed, hidden⟩)

/-- The blank behind a label is taken for an action. -/
theorem action_left_empty :
    userStory "Story: ".toList none = ⟨"user", "", "accomplish the task", .basic⟩ ∧
      ¬ Filled (userStory "Story: ".toList none) ∧ Shown "Story: ".toList := by
  have story : userStory "Story: ".toList none = ⟨"user", "", "accomplish the task", .basic⟩ := by
    decide +kernel
  refine ⟨story, ?_, by decide⟩
  rw [story]
  intro filled
  exact absurd (filled [] (by decide)) (by decide)

end TestPlanner.Prose
