import TestPlanner.Proofs.Text.Preference
import TestPlanner.Proofs.Text.Rows
import TestPlanner.Proofs.Text.Runs
import TestPlanner.Proofs.Text.Spelling
import TestPlanner.Prose.Story

/-!
# Which tier tells the story

A story is told by the first tier that finds something: the two sentences of a formal story, then the
two labels. A marking of the text and the keyword table come in where none of these phrases occurs.

**Labels.** What is read as a label need not be one. Neither a colon nor the start of a word is asked
for, so the letters `story` with anything but line feeds behind them will do, as in `history of art`
(`storyLabel_occurs_iff`). The tier of labels therefore hides the tiers below it wherever these letters
occur (`tier_eq_basic_iff`), and the story has a label if it comes from that tier exactly unless they
occur without one (`basic_labelled_iff`, `basic_without_label`).
-/

set_option autoImplicit false

namespace TestPlanner.Prose

open Text Phrase

/-! ## Formal sentences -/

/-- A text holds one of the sentences of a formal story. -/
def TellsFormally (text : List Char) : Prop :=
  formalSentence.Occurs text ∨ givenSentence.Occurs text

/-- The parts of the formal story that a text tells. -/
def FormalParts (text : List Char) (parts : List (List Char)) : Prop :=
  FoundEither formalSentence givenSentence text parts

theorem FormalParts.tellsFormally {text : List Char} {parts : List (List Char)}
    (formal : FormalParts text parts) : TellsFormally text :=
  exists_foundEither_iff.mp ⟨parts, formal⟩

theorem formalTier?_eq_some_iff {text : List Char} {story : UserStory} :
    formalTier? text = some story ↔
      ∃ actor action benefit, FormalParts text [actor, action, benefit] ∧
        story = storyOf actor action benefit .formal := by
  rw [formalTier?]
  constructor
  · intro told
    split at told
    next actor action benefit found =>
      exact ⟨actor, action, benefit, find?_or_eq_some_iff.mp found, (Option.some.inj told).symm⟩
    next => cases told
  · rintro ⟨actor, action, benefit, formal, rfl⟩
    rw [find?_or_eq_some_iff.mpr formal]

theorem formalTier?_eq_none_iff {text : List Char} :
    formalTier? text = none ↔ ¬ TellsFormally text := by
  constructor
  · intro silent tells
    obtain ⟨parts, formal⟩ := exists_foundEither_iff.mpr tells
    obtain ⟨actor, action, benefit, rfl⟩ := List.length_eq_three.mp (formal.length rfl rfl)
    have told := formalTier?_eq_some_iff.mpr ⟨actor, action, benefit, formal, rfl⟩
    rw [silent] at told
    cases told
  · intro silent
    by_contra told
    obtain ⟨story, told⟩ := Option.ne_none_iff_exists'.mp told
    obtain ⟨actor, action, benefit, formal, _⟩ := formalTier?_eq_some_iff.mp told
    exact silent formal.tellsFormally

/-! ## Labels -/

/-- The two labels, the longer one first. -/
def userStoryLabel : Phrase := labelled "user story".toList

def storyLabel : Phrase := labelled "story".toList

/-- The part of the first label that a text holds. -/
def LabelParts (text : List Char) (parts : List (List Char)) : Prop :=
  FoundEither userStoryLabel storyLabel text parts

theorem labelTier?_eq_some_iff {text : List Char} {story : UserStory} :
    labelTier? text = some story ↔
      ∃ action, LabelParts text [action] ∧
        story = storyOf defaultActor action "accomplish the task".toList .basic := by
  rw [labelTier?]
  constructor
  · intro told
    split at told
    next action found =>
      exact ⟨action, find?_or_eq_some_iff.mp found, (Option.some.inj told).symm⟩
    next => cases told
  · rintro ⟨action, labels, rfl⟩
    have found := find?_or_eq_some_iff.mpr labels
    rw [userStoryLabel, storyLabel] at found
    rw [found]

/-- A line can be read wherever it has anything. -/
theorem readable_line {c : Char} (other : c ≠ '\n') (s : List Char) :
    Phrase.Readable [.part, .stop '\n'] (c :: s) := by
  obtain ⟨rest, split, ends⟩ := exists_firstLine (c :: s)
  refine ⟨[firstLine (c :: s)], firstLine (c :: s), rest, [], split, ?_, not_mem_firstLine _, rfl,
    ends, rfl⟩
  rw [firstLine_cons other]
  exact List.cons_ne_nil _ _

/-- **A label is read wherever its letters stand with anything but line feeds behind them.** -/
theorem labelled_readable_iff {label s : List Char} (small : Small label) :
    (labelled label).Readable s ↔
      ∃ word rest, s = word ++ rest ∧ Spells word label ∧ ∃ c ∈ rest, c ≠ '\n' := by
  constructor
  · rintro ⟨parts, behind, read, front, tail, split, _, part, rest, _, split', nonempty, unbroken, _⟩
    obtain ⟨word, rfl, spelled⟩ := (phrase?_eq_some_iff small).mp read
    obtain ⟨c, part, rfl⟩ := List.exists_cons_of_ne_nil nonempty
    refine ⟨word, behind, rfl, spelled, c, ?_, ?_⟩
    · rw [split, split']
      simp
    · rintro rfl
      exact unbroken List.mem_cons_self
  · rintro ⟨word, rest, rfl, spelled, c, member, other⟩
    -- the part starts at the first character that is no line feed
    obtain ⟨feeds, tail, rfl, all, starts⟩ := exists_run (· == '\n') rest
    have gap : ∀ d ∈ feeds, isLabelGap d = true := by
      intro d listed
      rw [beq_iff_eq.mp (all d listed)]
      decide
    cases tail with
    | nil =>
      rw [List.append_nil] at member
      exact absurd (beq_iff_eq.mp (all c member)) other
    | cons d tail =>
      have visible : d ≠ '\n' := by simpa using starts d rfl
      obtain ⟨parts, line⟩ := readable_line visible tail
      exact ⟨parts, feeds ++ d :: tail, phrase?_append small spelled _, feeds, d :: tail, rfl, gap,
        line⟩

theorem small_story : Small "story".toList := by decide +kernel

theorem small_userStory : Small "user story".toList := by decide +kernel

/-- The letters of `story` stand in a text, with anything but line feeds behind them. -/
def MentionsStory (text : List Char) : Prop :=
  ∃ left word rest, text = left ++ (word ++ rest) ∧ Spells word "story".toList ∧
    ∃ c ∈ rest, c ≠ '\n'

theorem storyLabel_occurs_iff {text : List Char} :
    storyLabel.Occurs text ↔ MentionsStory text := by
  simp only [Occurs, storyLabel, labelled_readable_iff small_story, MentionsStory]
  constructor
  · rintro ⟨left, _, split, word, rest, rfl, found⟩
    exact ⟨left, word, rest, split, found⟩
  · rintro ⟨left, word, rest, split, found⟩
    exact ⟨left, _, split, word, rest, rfl, found⟩

/-- The longer label ends with the shorter one. -/
theorem exists_story_of_userStory {word : List Char} (spelled : Spells word "user story".toList) :
    ∃ user story, word = user ++ story ∧ Spells story "story".toList := by
  have parts : "user story".toList = "user ".toList ++ "story".toList := by decide
  rw [Spells, parts] at spelled
  obtain ⟨user, story, split, _, last⟩ := List.map_eq_append_iff.mp spelled
  exact ⟨user, story, split, last⟩

theorem mentionsStory_of_userStoryLabel {text : List Char} (occurs : userStoryLabel.Occurs text) :
    MentionsStory text := by
  obtain ⟨left, right, rfl, readable⟩ := occurs
  obtain ⟨word, rest, rfl, spelled, more⟩ := (labelled_readable_iff small_userStory).mp readable
  obtain ⟨user, story, rfl, last⟩ := exists_story_of_userStory spelled
  refine ⟨left ++ user, story, rest, ?_, last, more⟩
  simp only [List.append_assoc]

theorem LabelParts.mentionsStory {text : List Char} {parts : List (List Char)}
    (labels : LabelParts text parts) : MentionsStory text := by
  rcases exists_foundEither_iff.mp ⟨parts, labels⟩ with longer | shorter
  · exact mentionsStory_of_userStoryLabel longer
  · exact storyLabel_occurs_iff.mp shorter

theorem labelTier?_eq_none_iff {text : List Char} :
    labelTier? text = none ↔ ¬ MentionsStory text := by
  constructor
  · intro silent mentioned
    obtain ⟨parts, labels⟩ : ∃ parts, LabelParts text parts :=
      exists_foundEither_iff.mpr (.inr (storyLabel_occurs_iff.mpr mentioned))
    obtain ⟨action, rfl⟩ := List.length_eq_one_iff.mp (labels.length rfl rfl)
    have told := labelTier?_eq_some_iff.mpr ⟨action, labels, rfl⟩
    rw [silent] at told
    cases told
  · intro absent
    by_contra told
    obtain ⟨story, told⟩ := Option.ne_none_iff_exists'.mp told
    obtain ⟨action, labels, _⟩ := labelTier?_eq_some_iff.mp told
    exact absent labels.mentionsStory

/-! ## Tiers -/

/-- What tells the story of a text, tier by tier. -/
inductive TellsStory (text : List Char) (marker : Option (List Char → Option Marking)) :
    UserStory → Prop where
  /-- a formal sentence -/
  | formal {actor action benefit : List Char} (parts : FormalParts text [actor, action, benefit]) :
      TellsStory text marker (storyOf actor action benefit .formal)
  /-- a label, without a formal sentence -/
  | label {action : List Char} (silent : ¬ TellsFormally text) (parts : LabelParts text [action]) :
      TellsStory text marker
        (storyOf defaultActor action "accomplish the task".toList .basic)
  /-- a marking of the text, without either of them -/
  | marked {m : Marking} (silent : ¬ TellsFormally text) (unlabelled : ¬ MentionsStory text)
      (marks : (marker.bind fun mark => mark text) = some m) :
      TellsStory text marker (markedStory m)
  /-- the keyword table, without a marking -/
  | inferred (silent : ¬ TellsFormally text) (unlabelled : ¬ MentionsStory text)
      (unmarked : (marker.bind fun mark => mark text) = none) :
      TellsStory text marker (inferredStory text)

/-- **Every story is told by one of the tiers.** -/
theorem tellsStory_userStory (text : List Char) (marker : Option (List Char → Option Marking)) :
    TellsStory text marker (userStory text marker) := by
  rw [userStory]
  cases formal : formalTier? text with
  | some story =>
    obtain ⟨actor, action, benefit, parts, rfl⟩ := formalTier?_eq_some_iff.mp formal
    exact .formal parts
  | none =>
    have silent := formalTier?_eq_none_iff.mp formal
    cases label : labelTier? text with
    | some story =>
      obtain ⟨action, parts, rfl⟩ := labelTier?_eq_some_iff.mp label
      exact .label silent parts
    | none =>
      have unlabelled := labelTier?_eq_none_iff.mp label
      cases marks : marker.bind fun mark => mark text with
      | some m => exact .marked silent unlabelled marks
      | none => exact .inferred silent unlabelled marks

@[simp]
theorem storyOf_tier (actor action benefit : List Char) (tier : StoryTier) :
    (storyOf actor action benefit tier).tier = tier := rfl

theorem inferredStory_tier_ne_basic (text : List Char) :
    (inferredStory text).tier ≠ .basic := by
  simp only [inferredStory]
  split
  next => simp
  next => simp

/-- **Labels tell the story where the letters of `story` occur and no formal sentence does.** -/
theorem tier_eq_basic_iff (text : List Char) (marker : Option (List Char → Option Marking)) :
    (userStory text marker).tier = .basic ↔ MentionsStory text ∧ ¬ TellsFormally text := by
  have told := tellsStory_userStory text marker
  generalize userStory text marker = story at told ⊢
  cases told with
  | formal parts => exact iff_of_false (by simp) fun basic => basic.2 parts.tellsFormally
  | label silent parts => exact iff_of_true rfl ⟨parts.mentionsStory, silent⟩
  | marked _ unlabelled => exact iff_of_false (by simp [markedStory]) fun basic => unlabelled basic.1
  | inferred _ unlabelled =>
    exact iff_of_false (inferredStory_tier_ne_basic text) fun basic => unlabelled basic.1

/-! ## Stories with a label -/

/-- Whether a character continues a word. -/
def continuesWord (c : Char) : Bool := isAsciiAlphanumeric c || isCased c || c == '_'

/-- The word `story` stands in a text with a colon behind it, blanks between them or not. -/
def HasStoryLabel (text : List Char) : Prop :=
  ∃ left word blanks rest, text = left ++ (word ++ (blanks ++ ':' :: rest)) ∧
    Spells word "story".toList ∧ (∀ c ∈ blanks, isBlank c = true) ∧
    ∀ c ∈ left.getLast?, continuesWord c = false

theorem HasStoryLabel.mentionsStory {text : List Char} (labelled : HasStoryLabel text) :
    MentionsStory text := by
  obtain ⟨left, word, blanks, rest, rfl, spelled, _, _⟩ := labelled
  exact ⟨left, word, _, rfl, spelled, ':', List.mem_append_right blanks List.mem_cons_self,
    by decide⟩

/-- **The tier of labels, and when its story has a label.**

- A story comes from that tier exactly if the letters of `story` stand in the text with anything but
  line feeds behind them, and the text has no formal sentence.
- So it does if the text has a label and no formal sentence.
- But a label is not asked for. A story from that tier has one exactly unless the letters of `story`
  stand in the text without one, and with no formal sentence. -/
theorem basic_labelled_iff (text : List Char) (marker : Option (List Char → Option Marking)) :
    ((userStory text marker).tier = .basic ↔ MentionsStory text ∧ ¬ TellsFormally text) ∧
      (HasStoryLabel text → ¬ TellsFormally text → (userStory text marker).tier = .basic) ∧
      (((userStory text marker).tier = .basic → HasStoryLabel text) ↔
        ¬ (MentionsStory text ∧ ¬ TellsFormally text ∧ ¬ HasStoryLabel text)) := by
  have basic := tier_eq_basic_iff text marker
  refine ⟨basic, fun labelled silent => basic.mpr ⟨labelled.mentionsStory, silent⟩, ?_⟩
  rw [basic, ← not_and_not_right, and_assoc]

/-- The last letters of `history` are taken for a label. -/
theorem basic_without_label :
    userStory "The history of art".toList none =
        ⟨"user", "of art", "accomplish the task", .basic⟩ ∧
      ¬ HasStoryLabel "The history of art".toList := by
  refine ⟨by decide +kernel, ?_⟩
  rintro ⟨left, word, blanks, rest, split, _⟩
  have colon : ':' ∈ "The history of art".toList := by
    rw [split]
    simp
  exact absurd colon (by decide)

end TestPlanner.Prose
