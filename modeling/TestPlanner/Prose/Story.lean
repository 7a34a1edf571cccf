import TestPlanner.Prose.Keywords
import TestPlanner.Prose.Sentences
import TestPlanner.Text.Phrase

/-!
# User stories

A user story is looked for in tiers, and the first tier that finds one decides.

1. A formal sentence: `As a … I want to … so that …`, or `given … when … then …`.
2. A label, `User story` or `Story`, whose line holds the action.
3. A marking of the text by word classes, if one is available.
4. A keyword table.
5. A generic story.

The phrases of the first two tiers are searched from the left without regard to case. Their parts
are as short as possible, so the first connective after a part that lets the phrase match ends it,
and are trimmed.
-/

set_option autoImplicit false

namespace TestPlanner.Prose

open Text

/-- The connectives in front of the action. -/
def actionConnectives : List (List Char) :=
  ["i want to".toList, "i would like to".toList, "i need to".toList]

/-- The connectives in front of the benefit. -/
def benefitConnectives : List (List Char) := ["so that".toList, "in order to".toList]

/-- A formal sentence, with the actor, the action and the benefit as its parts. -/
def formalSentence : Phrase :=
  [.word "as a".toList, .perhaps ['n'], .word [' '], .part, .spaced actionConnectives, .gap, .part,
    .spaced benefitConnectives, .gap, .part, .stop '.']

/-- A `given … when … then …` sentence, with the same parts. -/
def givenSentence : Phrase :=
  [.word "given ".toList, .part, .word " when ".toList, .part, .word " then ".toList, .part,
    .stop '.']

/-- Whether a character may stand between a label and its text. -/
def isLabelGap (c : Char) : Bool := c == ':' || isBlank c

/-- A label and the rest of its line, which is its part. -/
def labelled (label : List Char) : Phrase := [.word label, .run isLabelGap, .part, .stop '\n']

/-- A story of trimmed parts. -/
def storyOf (actor action benefit : List Char) (tier : StoryTier) : UserStory :=
  ⟨String.ofList (trim actor), String.ofList (trim action), String.ofList (trim benefit), tier⟩

/-- The actor when none is named. -/
def defaultActor : List Char := "user".toList

/-- The action when none is named. -/
def defaultAction : List Char := "interact with the application".toList

/-- The story of a formal sentence. -/
def formalTier? (text : List Char) : Option UserStory :=
  match (formalSentence.find? text).or (givenSentence.find? text) with
  | some [actor, action, benefit] => some (storyOf actor action benefit .formal)
  | _ => none

/-- The story of a label. -/
def labelTier? (text : List Char) : Option UserStory :=
  match ((labelled "user story".toList).find? text).or ((labelled "story".toList).find? text) with
  | some [action] => some (storyOf defaultActor action "accomplish the task".toList .basic)
  | _ => none

/-- The actor of a marked text: the first person, else the first noun that names a role. -/
def markedActor (m : Marking) : List Char :=
  match m.people with
  | person :: _ => person.toList
  | [] =>
    match m.nouns.find? fun n => roleNouns.contains (lowered n) with
    | some noun => noun.toList
    | none => defaultActor

/-- The action of a marked text: its first three verbs. -/
def markedAction (m : Marking) : List Char :=
  if m.verbs.isEmpty then defaultAction
  else joinWith " and ".toList ((m.verbs.take 3).map String.toList)

/-- The benefit of a marked text: its last sentence, if it has at least two. -/
def markedBenefit (m : Marking) : List Char :=
  match m.sentences with
  | _ :: second :: rest => ((second :: rest).getLast (by simp)).toList
  | _ => "achieve their goals".toList

/-- The story of a marked text. -/
def markedStory (m : Marking) : UserStory :=
  storyOf (markedActor m) (markedAction m) (markedBenefit m) .tagged

/-- The story of the keyword table, or the generic one. -/
def inferredStory (text : List Char) : UserStory :=
  let small := lower text
  match storyRules.find? fun r => mentions r.keywords small with
  | some r => storyOf r.actor.toList r.action.toList r.benefit.toList .inferred
  | none => storyOf defaultActor defaultAction "accomplish their goals".toList .generic

/-- The user story of a text. `marker` marks word classes; it may be absent, and it may fail. -/
def userStory (text : List Char) (marker : Option (List Char → Option Marking)) : UserStory :=
  match formalTier? text with
  | some story => story
  | none =>
    match labelTier? text with
    | some story => story
    | none =>
      match marker.bind fun m => m text with
      | some marking => markedStory marking
      | none => inferredStory text

end TestPlanner.Prose
