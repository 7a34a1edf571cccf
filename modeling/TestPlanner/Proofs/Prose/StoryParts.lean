import TestPlanner.Proofs.Prose.StoryTiers
import TestPlanner.Proofs.Prose.WordClasses

/-!
# What the parts of a story show

Every story is put together of trimmed parts, so none of them begins or ends with a blank
(`visible_of_mem_storyParts`). Whether a part shows anything is another matter. Tables and defaults
always do, and so do the words and sentences that the lexicon marks (`filled_markedStory`,
`filled_inferredStory`). A part of a phrase has to be a character at least, but that may be a blank,
and nothing is left of it then. So a story is filled exactly if the parts that decide it, as the
phrases read them, show something (`filled_iff`).
-/

set_option autoImplicit false

namespace TestPlanner.Prose

open Text Phrase

/-! ## Parts of a story -/

/-- The actor, the action and the benefit of a story. -/
def storyParts (story : UserStory) : List (List Char) :=
  [story.actor.toList, story.action.toList, story.benefit.toList]

/-- A story all parts of which show something. -/
def Filled (story : UserStory) : Prop := ∀ part ∈ storyParts story, Shown part

theorem storyParts_storyOf (actor action benefit : List Char) (tier : StoryTier) :
    storyParts (storyOf actor action benefit tier) = [trim actor, trim action, trim benefit] := by
  simp [storyParts, storyOf]

/-- **A story is filled exactly if its parts show something before they are trimmed.** -/
theorem filled_storyOf_iff {actor action benefit : List Char} {tier : StoryTier} :
    Filled (storyOf actor action benefit tier) ↔ ∀ part ∈ [actor, action, benefit], Shown part := by
  simp [Filled, storyParts_storyOf]

/-- Every story is put together of parts. -/
theorem exists_storyOf (text : List Char) (marker : Option (List Char → Option Marking)) :
    ∃ actor action benefit tier, userStory text marker = storyOf actor action benefit tier := by
  have told := tellsStory_userStory text marker
  generalize userStory text marker = story at told ⊢
  cases told with
  | formal => exact ⟨_, _, _, .formal, rfl⟩
  | label => exact ⟨_, _, _, .basic, rfl⟩
  | marked => exact ⟨_, _, _, .tagged, rfl⟩
  | inferred =>
    simp only [inferredStory]
    split
    next => exact ⟨_, _, _, .inferred, rfl⟩
    next => exact ⟨_, _, _, .generic, rfl⟩

/-- **No part begins or ends with a blank.** -/
theorem visible_of_mem_storyParts {text part : List Char}
    {marker : Option (List Char → Option Marking)}
    (listed : part ∈ storyParts (userStory text marker)) : Visible part := by
  obtain ⟨actor, action, benefit, tier, story⟩ := exists_storyOf text marker
  rw [story, storyParts_storyOf] at listed
  simp only [List.mem_cons, List.not_mem_nil, or_false] at listed
  rcases listed with rfl | rfl | rfl
  · exact visible_trim actor
  · exact visible_trim action
  · exact visible_trim benefit

/-! ## Marked texts and tables -/

/-- A marking all of whose words and sentences show something. -/
structure ShownMarking (m : Marking) : Prop where
  people : ∀ t ∈ m.people, Shown t.toList
  nouns : ∀ t ∈ m.nouns, Shown t.toList
  verbs : ∀ t ∈ m.verbs, Shown t.toList
  sentences : ∀ t ∈ m.sentences, Shown t.toList

/-- What a class of words holds shows something. -/
theorem shown_of_mem_textsOf {text : List Char} {P : Occurrence → Prop} [DecidablePred P]
    {t : String} (member : t ∈ textsOf P (occurrencesIn text)) : Shown t.toList := by
  obtain ⟨o, occurs, rfl⟩ := exists_of_mem_textsOf member
  have starts := starts_of_mem_occurrencesIn occurs
  rw [String.toList_ofList]
  cases word : o.word with
  | nil =>
    rw [word] at starts
    cases starts
  | cons c rest =>
    have letter : isAsciiLetter c = true := by simpa [word] using starts
    refine ⟨c, List.mem_cons_self, Bool.eq_false_iff.mpr ?_⟩
    intro blank
    rw [not_isAsciiLetter_of_isBlank blank] at letter
    cases letter

/-- **The lexicon marks what shows.** -/
theorem shownMarking_mark (text : List Char) : ShownMarking (mark text) := by
  rw [mark_eq]
  refine ⟨?_, ?_, ?_, ?_⟩
  · intro t member
    exact shown_of_mem_textsOf member
  · intro t member
    exact shown_of_mem_textsOf member
  · intro t member
    exact shown_of_mem_textsOf member
  · intro t member
    obtain ⟨s, listed, rfl⟩ := List.mem_map.mp member
    obtain ⟨trimmed, kept⟩ := List.mem_filter.mp listed
    obtain ⟨piece, _, rfl⟩ := List.mem_map.mp trimmed
    rw [String.toList_ofList]
    exact shown_trim_of_ne_nil (by simpa using kept)

section

variable {m : Marking}

theorem shown_markedActor (shown : ShownMarking m) : Shown (markedActor m) := by
  rw [markedActor]
  split
  next person _ people =>
    apply shown.people
    rw [people]
    exact List.mem_cons_self
  next =>
    split
    next noun found => exact shown.nouns noun (List.mem_of_find?_eq_some found)
    next => decide

theorem shown_markedAction (shown : ShownMarking m) : Shown (markedAction m) := by
  rw [markedAction]
  split
  next => decide
  next some =>
    -- the first verb is among the first three
    have nonempty : m.verbs ≠ [] := by simpa using some
    obtain ⟨verb, rest, verbs⟩ := List.exists_cons_of_ne_nil nonempty
    obtain ⟨c, member, visible⟩ := shown.verbs verb (by rw [verbs]; exact List.mem_cons_self)
    refine ⟨c, mem_joinWith_of_mem ?_ member, visible⟩
    rw [verbs]
    simp

theorem shown_markedBenefit (shown : ShownMarking m) : Shown (markedBenefit m) := by
  rw [markedBenefit]
  split
  next first second rest sentences =>
    apply shown.sentences
    rw [sentences]
    exact List.mem_cons_of_mem first (List.getLast_mem _)
  next => decide

theorem filled_markedStory (shown : ShownMarking m) : Filled (markedStory m) := by
  rw [markedStory, filled_storyOf_iff]
  simp [shown_markedActor shown, shown_markedAction shown, shown_markedBenefit shown]

end

theorem shown_storyRules : ∀ r ∈ storyRules,
    ∀ part ∈ [r.actor.toList, r.action.toList, r.benefit.toList], Shown part := by
  decide +kernel

theorem filled_inferredStory (text : List Char) : Filled (inferredStory text) := by
  simp only [inferredStory]
  split
  next r found =>
    rw [filled_storyOf_iff]
    exact shown_storyRules r (List.mem_of_find?_eq_some found)
  next =>
    rw [filled_storyOf_iff]
    decide +kernel

/-! ## The parts that decide -/

/-- The parts of a phrase that decide the story: those of a formal sentence, else that of a label. -/
def Decides (text : List Char) (parts : List (List Char)) : Prop :=
  FormalParts text parts ∨ ¬ TellsFormally text ∧ LabelParts text parts

theorem not_decides {text : List Char} (silent : ¬ TellsFormally text)
    (unlabelled : ¬ MentionsStory text) (parts : List (List Char)) : ¬ Decides text parts := by
  rintro (formal | ⟨_, labels⟩)
  · exact silent formal.tellsFormally
  · exact unlabelled labels.mentionsStory

/-- **A story is filled exactly if the parts that decide it show something.** -/
theorem filled_iff (text : List Char) (marker : Option (List Char → Option Marking))
    (shows : ∀ mark ∈ marker, ∀ m ∈ mark text, ShownMarking m) :
    Filled (userStory text marker) ↔
      ∀ parts, Decides text parts → ∀ part ∈ parts, Shown part := by
  have told := tellsStory_userStory text marker
  generalize userStory text marker = story at told ⊢
  cases told with
  | formal own =>
    rw [filled_storyOf_iff]
    constructor
    · rintro shown parts (other | ⟨silent, _⟩)
      · rwa [other.unique own]
      · exact absurd own.tellsFormally silent
    · intro shown
      exact shown _ (.inl own)
  | @label action silent own =>
    rw [filled_storyOf_iff]
    constructor
    · rintro shown parts (other | ⟨_, other⟩)
      · exact absurd other.tellsFormally silent
      · rw [other.unique own]
        simpa using shown action (by simp)
    · intro shown part listed
      have others : ∀ part ∈ [defaultActor, "accomplish the task".toList], Shown part := by decide
      have own := shown _ (.inr ⟨silent, own⟩) action List.mem_cons_self
      rcases List.mem_cons.mp listed with rfl | later
      · exact others _ List.mem_cons_self
      · rcases List.mem_cons.mp later with rfl | last
        · exact own
        · exact others part (List.mem_cons_of_mem _ last)
  | marked silent unlabelled marks =>
    obtain ⟨mark, given, found⟩ := Option.bind_eq_some_iff.mp marks
    refine iff_of_true (filled_markedStory (shows mark given _ found)) ?_
    exact fun parts decides => absurd decides (not_decides silent unlabelled parts)
  | inferred silent unlabelled _ =>
    refine iff_of_true (filled_inferredStory text) ?_
    exact fun parts decides => absurd decides (not_decides silent unlabelled parts)

end TestPlanner.Prose
