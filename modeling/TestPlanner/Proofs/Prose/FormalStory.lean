import TestPlanner.Proofs.Text.Connective
import TestPlanner.Prose.Story

/-!
# Formal stories in context

A formal sentence (`As a … I want to … so that …`) is looked for from the left, in any letter case
and without regard to where words or sentences end. Its parts are as short as possible, so the
actor ends at the first connective of the action, and the action at the first one of the benefit.

**Where the sentence starts.** Complete sentences in front of the story have no connective, so a
match that starts in them has to reach the one of the story, and a part does not go past a line
feed. It starts at an opening, `as a` or `as an`, on the line on which the story begins
(`opening_of_reads`). Such letters also occur elsewhere, as at the end of `has a`. The first
of them on that line is where the match starts (`find?_of_opensEarly`).

So the story is always found, with its action and its benefit, and its actor is the one of the
sentence exactly if no opening precedes the sentence on its line (`actor_found_iff`). Otherwise what
follows that opening is taken for the actor (`actor_from_sentence_before`).
-/

set_option autoImplicit false

namespace TestPlanner.Prose

open Text Phrase

/-! ## The words of a formal sentence -/

/-- The connectives of a formal sentence. -/
def connectives : List (List Char) := actionConnectives ++ benefitConnectives

/-- What a formal sentence may start with. -/
def openings : List (List Char) := ["as a ".toList, "as an ".toList]

/-- An opening in any letter case. -/
def IsOpening (s : List Char) : Prop := ∃ word ∈ openings, Spells s word

instance (s : List Char) : Decidable (IsOpening s) :=
  inferInstanceAs (Decidable (∃ word ∈ openings, Spells s word))

/-- The steps of a formal sentence behind its benefit's connective. -/
def behindAim : Phrase := [.gap, .part, .stop '.']

/-- The steps of a formal sentence behind its action's connective. -/
def behindWish : Phrase := .gap :: .part :: .spaced benefitConnectives :: behindAim

theorem formalSentence_eq : formalSentence =
    .word "as a".toList :: .perhaps ['n'] :: .word [' '] :: .part ::
      .spaced actionConnectives :: behindWish := rfl

theorem connectives_action : Connectives actionConnectives := by
  refine ⟨?_, ?_, ?_, ?_⟩ <;> decide +kernel

theorem connectives_benefit : Connectives benefitConnectives := by
  refine ⟨?_, ?_, ?_, ?_⟩ <;> decide +kernel

/-- An opening is an opening word with an optional n, and a space. -/
theorem IsOpening.cases {opening : List Char} (opens : IsOpening opening) :
    ∃ word, Spells word "as a".toList ∧
      (opening = word ++ [' '] ∨ ∃ n, folded n = 'n' ∧ opening = word ++ [n, ' ']) := by
  obtain ⟨w, listed, spelled⟩ := opens
  have choices : openings = ["as a".toList ++ [' '], "as a".toList ++ ['n', ' ']] := by decide
  rw [choices] at listed
  rcases List.mem_cons.mp listed with rfl | later
  · obtain ⟨word, space, rfl, start, last⟩ := List.map_eq_append_iff.mp spelled
    obtain ⟨c, rfl, form⟩ := List.map_eq_singleton_iff.mp last
    exact ⟨word, start, .inl (by rw [eq_of_folded (by decide) form])⟩
  · rw [List.mem_singleton.mp later] at spelled
    obtain ⟨word, ending, rfl, start, last⟩ := List.map_eq_append_iff.mp spelled
    obtain ⟨n, space, rfl, form, last⟩ := List.map_eq_cons_iff.mp last
    obtain ⟨c, rfl, blank⟩ := List.map_eq_singleton_iff.mp last
    exact ⟨word, start, .inr ⟨n, form, by rw [eq_of_folded (by decide) blank]⟩⟩

/-- **Behind an opening, a formal sentence goes on with its actor.** -/
theorem parts?_opening {opening : List Char} (opens : IsOpening opening) (s : List Char) :
    formalSentence.parts? (opening ++ s) =
      parts? (.part :: .spaced actionConnectives :: behindWish) s := by
  have letterN : Small ['n'] := by decide
  have space : Small [' '] := by decide
  have small : Small "as a".toList := by decide
  obtain ⟨word, spelled, rfl | ⟨n, form, rfl⟩⟩ := opens.cases
  · have absent : phrase? ['n'] (' ' :: s) = none := by
      rw [phrase?_eq_none_iff letterN]
      exact fun starts => absurd (List.cons_prefix_cons.mp starts).1 (by decide)
    have read : phrase? [' '] (' ' :: s) = some s := phrase?_singleton space rfl s
    rw [formalSentence_eq, List.append_assoc, List.singleton_append]
    simp only [parts?, phrase?_append small spelled, Option.bind_some, absent, Option.bind_none,
      Option.none_or, read]
  · have present : phrase? ['n'] (n :: ' ' :: s) = some (' ' :: s) :=
      phrase?_singleton letterN form (' ' :: s)
    have read : phrase? [' '] (' ' :: s) = some s := phrase?_singleton space rfl s
    have absent : phrase? [' '] (n :: ' ' :: s) = none := by
      rw [phrase?_eq_none_iff space, List.map_cons, form]
      exact fun starts => absurd (List.cons_prefix_cons.mp starts).1 (by decide)
    rw [formalSentence_eq, List.append_assoc]
    simp only [parts?, List.cons_append, List.nil_append, phrase?_append small spelled,
      Option.bind_some, present, absent, Option.bind_none, Option.or_none, read]

/-- A formal sentence starts with an opening. -/
theorem exists_opening {s : List Char} {parts : List (List Char)}
    (reads : formalSentence.Reads s parts) : ∃ opening rest, s = opening ++ rest ∧
      IsOpening opening ∧ Reads (.part :: .spaced actionConnectives :: behindWish) rest parts := by
  obtain ⟨behind, read, reads⟩ := reads
  obtain ⟨word, rfl, spelled⟩ := (phrase?_eq_some_iff (by decide)).mp read
  rcases reads with ⟨gone, read, rest, space, reads⟩ | ⟨rest, space, reads⟩
  · obtain ⟨letter, rfl, form⟩ := (phrase?_eq_some_iff (by decide)).mp read
    obtain ⟨blank, rfl, last⟩ := (phrase?_eq_some_iff (by decide)).mp space
    refine ⟨word ++ (letter ++ blank), rest, by simp only [List.append_assoc], ?_, reads⟩
    refine ⟨"as an ".toList, by decide, ?_⟩
    rw [Spells, List.map_append, List.map_append, spelled, form, last]
    decide
  · obtain ⟨blank, rfl, last⟩ := (phrase?_eq_some_iff (by decide)).mp space
    refine ⟨word ++ blank, rest, by rw [List.append_assoc], ?_, reads⟩
    refine ⟨"as a ".toList, by decide, ?_⟩
    rw [Spells, List.map_append, spelled, last]
    decide

/-! ## Stories -/

/-- What may stand for the actor, the action or the benefit of a story. -/
structure IsStoryPart (s : List Char) : Prop where
  nonempty : s ≠ []
  visible : Visible s
  unbroken : '\n' ∉ s
  unended : '.' ∉ s
  free : FreeOf connectives s

instance (s : List Char) : Decidable (IsStoryPart s) :=
  decidable_of_iff (s ≠ [] ∧ Visible s ∧ '\n' ∉ s ∧ '.' ∉ s ∧ FreeOf connectives s)
    ⟨fun ⟨nonempty, visible, unbroken, unended, free⟩ =>
      ⟨nonempty, visible, unbroken, unended, free⟩,
      fun ⟨nonempty, visible, unbroken, unended, free⟩ =>
      ⟨nonempty, visible, unbroken, unended, free⟩⟩

theorem IsStoryPart.ends {s : List Char} (part : IsStoryPart s) :
    (s.getLast?.all fun c => !isBlank c) = true :=
  part.visible.last

theorem IsStoryPart.starts {s : List Char} (part : IsStoryPart s) (rest : List Char) :
    ∀ c ∈ (s ++ rest).head?, isBlank c = false := by
  have starts := part.visible.first
  cases s with
  | nil => exact absurd rfl part.nonempty
  | cons d s =>
    rintro c first
    rw [List.cons_append, List.head?_cons, Option.mem_some_iff] at first
    rw [← first]
    simpa using starts

theorem IsStoryPart.exists_visible {s : List Char} (part : IsStoryPart s) :
    ∃ c ∈ s, isBlank c = false := by
  have starts := part.visible.first
  cases s with
  | nil => exact absurd rfl part.nonempty
  | cons c s => exact ⟨c, List.mem_cons_self, by simpa using starts⟩

theorem free_action {s : List Char} (free : FreeOf connectives s) : FreeOf actionConnectives s :=
  fun word listed => free word (List.mem_append_left _ listed)

theorem free_benefit {s : List Char} (free : FreeOf connectives s) :
    FreeOf benefitConnectives s :=
  fun word listed => free word (List.mem_append_right _ listed)

/-- A formal sentence with its connectives in any letter case. -/
structure StorySentence where
  opening : List Char
  actor : List Char
  wish : List Char
  action : List Char
  aim : List Char
  benefit : List Char
  opens : IsOpening opening
  wishes : ∃ word ∈ actionConnectives, Spells wish word
  aims : ∃ word ∈ benefitConnectives, Spells aim word
  isActor : IsStoryPart actor
  isAction : IsStoryPart action
  isBenefit : IsStoryPart benefit

namespace StorySentence

/-- A story from the connective of its action on. -/
def ending (t : StorySentence) : List Char :=
  t.wish ++ ' ' :: (t.action ++ ' ' :: (t.aim ++ ' ' :: (t.benefit ++ ['.'])))

/-- The story as it is written. -/
def text (t : StorySentence) : List Char := t.opening ++ (t.actor ++ ' ' :: t.ending)

end StorySentence

/-- The sentences in front of a story. -/
structure StoryLead where
  text : List Char
  complete : text = [] ∨ ∃ front blank, text = front ++ ['.', blank] ∧ (blank = ' ' ∨ blank = '\n')
  free : FreeOf connectives text

/-! ## A story that is read -/

theorem parts?_gap {p : Phrase} {parts : List (List Char)} {s : List Char}
    (starts : ∀ c ∈ s.head?, isBlank c = false) (found : p.parts? s = some parts) :
    parts? (.gap :: p) (' ' :: s) = some parts := by
  have gap : IsGap [' '] :=
    ⟨List.cons_ne_nil _ _, List.forall_mem_singleton.mpr (by decide)⟩
  have read := many1_append gap starts found
  exact read

/-- The benefit ends at the full stop. -/
theorem parts?_benefit {benefit : List Char} (part : IsStoryPart benefit) :
    parts? [.part, .stop '.'] (benefit ++ ['.']) = some [benefit] := by
  refine parts?_part part.nonempty part.unbroken rfl ?_
  rintro left right rfl _ nonempty others ⟨stop, _⟩
  cases right with
  | nil => exact nonempty rfl
  | cons c right =>
    rcases stop with empty | first
    · cases empty
    · rw [List.cons_append, List.head?_cons, Option.some.injEq] at first
      exact part.unended (List.mem_append_right left (by rw [first]; exact List.mem_cons_self))

/-- **A story is read from an opening on.** Whatever stands between the opening and the connective
of the action is the actor, if it has no line feed and no such connective. -/
theorem parts?_story (t : StorySentence) {opening front : List Char} (opens : IsOpening opening)
    (nonempty : front ≠ []) (unbroken : '\n' ∉ front) (free : FreeOf actionConnectives front)
    (ends : (front.getLast?.all fun c => !isBlank c) = true) :
    formalSentence.parts? (opening ++ (front ++ ' ' :: t.ending)) =
      some [front, t.action, t.benefit] := by
  obtain ⟨wish, wished, spelledWish⟩ := t.wishes
  obtain ⟨aim, aimed, spelledAim⟩ := t.aims
  have behindAim : behindAim.parts? (' ' :: (t.benefit ++ ['.'])) = some [t.benefit] :=
    parts?_gap (t.isBenefit.starts _) (parts?_benefit t.isBenefit)
  have behindWish : behindWish.parts?
      (' ' :: (t.action ++ ' ' :: (t.aim ++ ' ' :: (t.benefit ++ ['.'])))) =
        some [t.action, t.benefit] :=
    parts?_gap (t.isAction.starts _)
      (connectives_benefit.parts?_part_spaced t.isAction.nonempty t.isAction.unbroken
        (free_benefit t.isAction.free) t.isAction.ends aimed spelledAim behindAim)
  rw [parts?_opening opens]
  exact connectives_action.parts?_part_spaced nonempty unbroken free ends wished spelledWish
    behindWish

/-! ## Where a story is read -/

theorem openings_apart : ∀ word ∈ openings, '.' ∉ word ∧ '\n' ∉ word ∧
    (word.head?.any fun c => !isBlank c) = true := by
  decide +kernel

theorem actionConnectives_apart : ∀ word ∈ actionConnectives, '.' ∉ word ∧
    (word.head?.any fun c => !isBlank c) = true ∧ word.head? ≠ some 'a' := by
  decide +kernel

namespace StoryLead

variable (lead : StoryLead)

/-- The end of the sentences in front is a full stop with one blank, or that blank alone. -/
theorem ends_cases {left right : List Char} (split : lead.text = left ++ right)
    (nonempty : right ≠ []) :
    ∃ blank, (blank = ' ' ∨ blank = '\n') ∧ (right = [blank] ∨ '.' ∈ right) := by
  rcases lead.complete with empty | ⟨front, blank, whole, isBlank⟩
  · rw [empty] at split
    exact absurd (List.append_eq_nil_iff.mp split.symm).2 nonempty
  · refine ⟨blank, isBlank, ?_⟩
    rw [split] at whole
    rcases List.append_eq_append_iff.mp whole with ⟨more, _, rfl⟩ | ⟨more, _, last⟩
    · exact .inr (List.mem_append_right more List.mem_cons_self)
    · cases more with
      | nil =>
        rw [List.nil_append] at last
        exact .inr (by rw [← last]; exact List.mem_cons_self)
      | cons c more =>
        obtain ⟨_, last⟩ := List.cons.inj last
        rcases List.append_eq_singleton_iff.mp last.symm with ⟨_, rfl⟩ | ⟨_, rfl⟩
        · exact .inl rfl
        · exact absurd rfl nonempty

/-- A word that starts visibly and has no full stop does not begin at the end of the sentences in
front. -/
theorem not_spells_end {left right : List Char} (split : lead.text = left ++ right)
    (nonempty : right ≠ []) {rest word : List Char} (unended : '.' ∉ word)
    (starts : (word.head?.any fun c => !isBlank c) = true) : ¬ Spells (right ++ rest) word := by
  rintro rfl
  obtain ⟨blank, isBlank, rfl | stop⟩ := lead.ends_cases split nonempty
  · have blankStarts : Text.isBlank blank = true := by
      rcases isBlank with rfl | rfl <;> decide
    rw [List.singleton_append, List.map_cons, List.head?_cons, Option.any_some,
      folded_of_isBlank blankStarts, blankStarts] at starts
    cases starts
  · exact unended (List.mem_map.mpr ⟨'.', List.mem_append_left rest stop, by decide⟩)

/-- **No connective of the action begins in the sentences in front.** -/
theorem not_spells (left : List Char) {right : List Char} (split : lead.text = left ++ right)
    (nonempty : right ≠ []) {chars tail rest word : List Char} (wished : word ∈ actionConnectives)
    (same : chars ++ tail = right ++ rest) : ¬ Spells chars word := by
  intro spelled
  rcases List.append_eq_append_iff.mp same with ⟨more, within, _⟩ | ⟨beyond, longer, _⟩
  · refine (free_action lead.free).ne_append wished spelled left more ?_
    rw [split, within]
  · obtain ⟨unended, starts, _⟩ := actionConnectives_apart word wished
    rw [longer] at spelled
    exact lead.not_spells_end split nonempty unended starts spelled

end StoryLead

/-- An opening starts with a form of the letter a. -/
theorem IsOpening.exists_cons {opening : List Char} (opens : IsOpening opening) :
    ∃ c rest, opening = c :: rest ∧ folded c = 'a' ∧ isBlank c = false := by
  obtain ⟨word, listed, rfl⟩ := opens
  have first : ∀ word ∈ openings, word.head? = some 'a' := by decide +kernel
  have letter := first _ listed
  cases opening with
  | nil => cases letter
  | cons c rest =>
    rw [List.map_cons, List.head?_cons, Option.some.injEq] at letter
    refine ⟨c, rest, rfl, letter, Bool.eq_false_iff.mpr fun blank => ?_⟩
    rw [folded_of_isBlank blank] at letter
    exact absurd blank (by rw [letter]; decide)

theorem StorySentence.exists_text_cons (t : StorySentence) :
    ∃ c s, t.text = c :: s ∧ folded c = 'a' ∧ isBlank c = false := by
  obtain ⟨c, rest, form, letter, visible⟩ := t.opens.exists_cons
  exact ⟨c, rest ++ (t.actor ++ ' ' :: t.ending), by rw [StorySentence.text, form]; rfl, letter,
    visible⟩

/-- A story does not start with the connective of its action. -/
theorem StorySentence.text_ne_append (t : StorySentence) {wish chars tail : List Char}
    (wished : wish ∈ actionConnectives) (spelled : Spells chars wish) : t.text ≠ chars ++ tail := by
  intro same
  obtain ⟨c, s, form, letter, _⟩ := t.exists_text_cons
  obtain ⟨d, chars, rfl, _⟩ := connectives_action.exists_cons wished spelled
  rw [form, List.cons_append] at same
  refine (actionConnectives_apart wish wished).2.2 ?_
  rw [← spelled, List.map_cons, List.head?_cons, ← (List.cons.inj same).1, letter]

/-- **A match that starts in front of the story starts on its line.** -/
theorem opening_of_reads (lead : StoryLead) (t : StorySentence) (left : List Char)
    {right : List Char} (split : lead.text = left ++ right) (nonempty : right ≠ [])
    {parts : List (List Char)}
    (reads : formalSentence.Reads (right ++ t.text) parts) :
    ∃ opening line, right = opening ++ line ∧ IsOpening opening ∧ '\n' ∉ line := by
  obtain ⟨opening, behind, whole, ⟨word, listed, spelled⟩, later⟩ := exists_opening reads
  rcases List.append_eq_append_iff.mp whole with ⟨more, within, _⟩ | ⟨line, rfl, rest⟩
  · -- the opening does not reach over the end of the sentences in front
    obtain ⟨unended, _, starts⟩ := openings_apart word listed
    rw [within] at spelled
    exact absurd spelled (lead.not_spells_end split nonempty unended starts)
  refine ⟨opening, line, rfl, ⟨word, listed, spelled⟩, fun feed => ?_⟩
  obtain ⟨actor, _, _, rfl, _, unbroken, _, wish, wished, gap, _, tail, rfl, isGap, read, _⟩ := later
  obtain ⟨chars, rfl, spelledWish⟩ :=
    (phrase?_eq_some_iff (connectives_action.small wish wished)).mp read
  rw [← List.append_assoc] at rest
  rcases List.append_eq_append_iff.mp rest.symm with ⟨beyond, reached, start⟩ | ⟨inner, inside, found⟩
  · -- the blanks behind the actor hold the line feed and reach the story
    rcases List.append_eq_append_iff.mp reached.symm with ⟨more, within, _⟩ | ⟨blanks, _, blank⟩
    · exact unbroken (by rw [within]; exact List.mem_append_left more feed)
    obtain ⟨c, s, form, _, visible⟩ := t.exists_text_cons
    cases beyond with
    | nil => exact t.text_ne_append wished spelledWish start
    | cons d beyond =>
      have space : isBlank d = true :=
        isGap.blank d (by rw [blank]; exact List.mem_append_right blanks List.mem_cons_self)
      rw [form] at start
      rw [(List.cons.inj start).1, space] at visible
      cases visible
  · by_cases none : inner = []
    · rw [none, List.nil_append] at found
      exact t.text_ne_append wished spelledWish found.symm
    · refine lead.not_spells (left ++ (opening ++ (actor ++ gap))) ?_ none wished found spelledWish
      rw [split, inside]
      simp only [List.append_assoc]

/-! ## The leftmost place -/

/-- An opening with the rest of its line behind it. -/
def StartsStory (s : List Char) : Prop :=
  ∃ opening line, s = opening ++ line ∧ IsOpening opening ∧ '\n' ∉ line

/-- An opening stands on the last line of the text. -/
def OpensEarly (s : List Char) : Prop := ∃ left right, s = left ++ right ∧ StartsStory right

theorem openings_free : ∀ opening ∈ openings, ∀ word ∈ actionConnectives,
    ¬ word <:+: opening ∧ ∀ tail ∈ opening.tails, tail <+: word → tail = [] := by
  decide +kernel

/-- No connective of the action occurs in a story up to the end of its actor. -/
theorem StorySentence.free_start (t : StorySentence) :
    FreeOf actionConnectives (t.opening ++ t.actor) := by
  intro word listed occurs
  obtain ⟨opening, opens, spelled⟩ := t.opens
  rw [List.map_append, spelled, List.infix_append_iff] at occurs
  rcases occurs with own | actor | ⟨first, second, rfl, ends, begins⟩
  · exact (openings_free opening opens word listed).1 own
  · exact free_action t.isActor.free word listed actor
  · have empty := (openings_free opening opens _ listed).2 first ((List.mem_tails _ _).mpr ends)
      (List.prefix_append first second)
    rw [empty, List.nil_append] at listed
    exact free_action t.isActor.free second listed begins.isInfix

/-- No connective of the action occurs between a place in front of the story and the end of its
actor. -/
theorem free_line (lead : StoryLead) (t : StorySentence) (left : List Char) {line : List Char}
    (split : lead.text = left ++ line) :
    FreeOf actionConnectives (line ++ (t.opening ++ t.actor)) := by
  intro word listed occurs
  obtain ⟨before, chars, after, whole, spelled⟩ := infix_map_folded_iff.mp occurs
  rcases List.append_eq_append_iff.mp whole with ⟨more, rfl, inside⟩ | ⟨more, rfl, across⟩
  · exact t.free_start.ne_append listed spelled more after inside
  · by_cases none : more = []
    · rw [none, List.nil_append] at across
      exact t.free_start.ne_append listed spelled [] after across.symm
    · refine lead.not_spells (left ++ before) ?_ none listed across spelled
      rw [split, List.append_assoc]

/-- **A story behind complete sentences.** -/
theorem find?_of_not_opensEarly (lead : StoryLead) (t : StorySentence)
    (plain : ¬ OpensEarly lead.text) :
    formalSentence.find? (lead.text ++ t.text) = some [t.actor, t.action, t.benefit] := by
  rw [find_eq, search_append fun left right split nonempty => ?_]
  · exact search_of_some (parts?_story t t.opens t.isActor.nonempty t.isActor.unbroken
      (free_action t.isActor.free) t.isActor.ends)
  · refine parts?_eq_none_iff.mpr fun parts reads => plain ⟨left, right, split, ?_⟩
    exact opening_of_reads lead t left split nonempty reads

/-- An opening has no line feed. -/
theorem IsOpening.unbroken {opening : List Char} (opens : IsOpening opening) :
    '\n' ∉ opening := by
  obtain ⟨word, listed, rfl⟩ := opens
  exact fun feed => (openings_apart _ listed).2.1 (List.mem_map.mpr ⟨'\n', feed, by decide⟩)

/-- **A story behind an opening on its line.** The match starts at the first such opening, and what
follows it counts as part of the actor. -/
theorem find?_of_opensEarly (lead : StoryLead) (t : StorySentence) (early : OpensEarly lead.text) :
    ∃ line, formalSentence.find? (lead.text ++ t.text) =
      some [line ++ (t.opening ++ t.actor), t.action, t.benefit] := by
  obtain ⟨left, _, split, ⟨opening, line, rfl, opens, unbroken⟩, first⟩ := exists_first_rest early
  have ends : ((line ++ (t.opening ++ t.actor)).getLast?.all fun c => !isBlank c) = true := by
    rw [← List.append_assoc, List.getLast?_append_of_ne_nil _ t.isActor.nonempty]
    exact t.isActor.ends
  have nonempty : line ++ (t.opening ++ t.actor) ≠ [] := by
    simp [t.isActor.nonempty]
  have onLine : '\n' ∉ line ++ (t.opening ++ t.actor) := by
    simp [unbroken, t.opens.unbroken, t.isActor.unbroken]
  have free : FreeOf actionConnectives (line ++ (t.opening ++ t.actor)) :=
    free_line lead t (left ++ opening) (by rw [split, List.append_assoc])
  have whole : lead.text ++ t.text =
      left ++ (opening ++ (line ++ (t.opening ++ t.actor) ++ ' ' :: t.ending)) := by
    rw [split, StorySentence.text]
    simp only [List.append_assoc]
  refine ⟨line, ?_⟩
  rw [find_eq, whole, search_append fun before between left_eq more => ?_]
  · exact search_of_some (parts?_story t opens nonempty onLine free ends)
  · refine parts?_eq_none_iff.mpr fun parts reads => ?_
    refine first before between left_eq more
      (opening_of_reads lead t before ?_ (by simp [more]) (?_ : formalSentence.Reads _ parts))
    · rw [split, left_eq, List.append_assoc]
    · rw [StorySentence.text]
      simpa only [List.append_assoc] using reads

/-! ## The story that is found -/

/-- The story of a formal sentence. -/
def StorySentence.story (t : StorySentence) : UserStory :=
  ⟨String.ofList t.actor, String.ofList t.action, String.ofList t.benefit, .formal⟩

theorem userStory_of_find? {text actor action benefit : List Char}
    (found : formalSentence.find? text = some [actor, action, benefit])
    (marker : Option (List Char → Option Marking)) :
    userStory text marker = storyOf actor action benefit .formal := by
  simp only [userStory, formalTier?, found, Option.some_or]

/-- What is trimmed in front of a text that begins visibly does not reach it. -/
theorem exists_trimStart_append {s : List Char} (starts : ∃ c rest, s = c :: rest ∧ isBlank c = false)
    (front : List Char) : ∃ kept, trimStart (front ++ s) = kept ++ s := by
  obtain ⟨c, rest, rfl, visible⟩ := starts
  by_cases blank : ∀ d ∈ front, isBlank d = true
  · exact ⟨[], by rw [trimStart_append blank, trimStart_cons_of_visible visible, List.nil_append]⟩
  · have shown : ∃ d ∈ front, isBlank d = false := by simpa using blank
    exact ⟨trimStart front, trimStart_append_of_visible shown (c :: rest)⟩

/-- **A formal sentence behind complete sentences is found, and its actor is its own exactly if no
opening precedes it on its line.** The action and the benefit are always those of the sentence. An
actor that is not its own ends with it. -/
theorem actor_found_iff (lead : StoryLead) (t : StorySentence)
    (marker : Option (List Char → Option Marking)) :
    ∃ front, userStory (lead.text ++ t.text) marker =
        { t.story with actor := String.ofList (front ++ t.actor) } ∧
      (front = [] ↔ ¬ OpensEarly lead.text) := by
  by_cases early : OpensEarly lead.text
  · obtain ⟨line, found⟩ := find?_of_opensEarly lead t early
    obtain ⟨c, rest, form, _, visible⟩ := t.opens.exists_cons
    have starts : ∃ c rest, t.opening ++ t.actor = c :: rest ∧ isBlank c = false :=
      ⟨c, rest ++ t.actor, by rw [form]; rfl, visible⟩
    obtain ⟨kept, start⟩ := exists_trimStart_append starts line
    have trimmed : trim (line ++ (t.opening ++ t.actor)) = kept ++ t.opening ++ t.actor := by
      obtain ⟨last, member, shown⟩ := t.isActor.exists_visible
      have ended := t.isActor.visible.trimEnd_append []
      rw [List.append_nil, trimEnd_eq_nil (List.forall_mem_nil _), List.append_nil] at ended
      rw [trim, start, ← List.append_assoc, trimEnd_append_of_visible ⟨last, member, shown⟩, ended]
    refine ⟨kept ++ t.opening, ?_, iff_of_false ?_ (not_not_intro early)⟩
    · rw [userStory_of_find? found, storyOf, trimmed, t.isAction.visible.trim_eq_self,
        t.isBenefit.visible.trim_eq_self]
      rfl
    · rw [form]
      simp
  · refine ⟨[], ?_, iff_of_true rfl early⟩
    rw [userStory_of_find? (find?_of_not_opensEarly lead t early), storyOf,
      t.isActor.visible.trim_eq_self, t.isAction.visible.trim_eq_self,
      t.isBenefit.visible.trim_eq_self]
    rfl

/-- A sentence that ends in an opening by chance. -/
def cartLead : StoryLead where
  text := "This shop has a cart. ".toList
  complete := .inr ⟨"This shop has a cart".toList, ' ', by decide, .inl rfl⟩
  free := by decide +kernel

/-- A short story. -/
def guestStory : StorySentence where
  opening := "As a ".toList
  actor := "guest".toList
  wish := "I want to".toList
  action := "pay".toList
  aim := "so that".toList
  benefit := "I own it".toList
  opens := by decide +kernel
  wishes := by decide +kernel
  aims := by decide +kernel
  isActor := by decide +kernel
  isAction := by decide +kernel
  isBenefit := by decide +kernel

/-- The letters at the end of `has a` are taken for the opening of the story. -/
theorem actor_from_sentence_before :
    guestStory.text = "As a guest I want to pay so that I own it.".toList ∧
      userStory (cartLead.text ++ guestStory.text) none =
        ⟨"cart. As a guest", "pay", "I own it", .formal⟩ ∧
      userStory (cartLead.text ++ guestStory.text) none ≠ guestStory.story := by
  refine ⟨by decide, ?_, ?_⟩ <;> decide +kernel

end TestPlanner.Prose
