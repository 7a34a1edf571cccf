import TestPlanner.Proofs.FirstOccurrence
import TestPlanner.Proofs.Text.Phrase
import TestPlanner.Proofs.Text.Spelling
import TestPlanner.Proofs.Text.Trim

/-!
# Parts between connectives

A part of a phrase often ends at one of several connectives, with blanks in front. The part is as
short as possible, so it ends at the first connective. A text in which no connective occurs is
therefore read as one part up to the connective behind it (`parts?_part_spaced`). The connectives
must not run into each other: none starts another one, and none could begin at the end of the part
and go on over the space into the connective that follows (`Connectives`).
-/

set_option autoImplicit false

namespace TestPlanner.Text

open Phrase

/-- None of the words occurs in the text, in any letter case. -/
def FreeOf (words : List (List Char)) (s : List Char) : Prop :=
  ∀ word ∈ words, ¬ word <:+: s.map folded

instance (words : List (List Char)) (s : List Char) : Decidable (FreeOf words s) :=
  List.decidableBAll (fun word => ¬ word <:+: s.map folded) words

/-- A word occurs where it is spelled. -/
theorem infix_map_folded_iff {word s : List Char} :
    word <:+: s.map folded ↔ ∃ left chars right, s = left ++ (chars ++ right) ∧ Spells chars word := by
  constructor
  · rintro ⟨left, right, whole⟩
    rw [List.append_assoc] at whole
    obtain ⟨front, behind, rfl, _, whole⟩ := List.map_eq_append_iff.mp whole.symm
    obtain ⟨chars, rest, rfl, spelled, _⟩ := List.map_eq_append_iff.mp whole
    exact ⟨front, chars, rest, rfl, spelled⟩
  · rintro ⟨left, chars, right, rfl, rfl⟩
    refine ⟨left.map folded, right.map folded, ?_⟩
    rw [List.map_append, List.map_append, List.append_assoc]

/-- A word that a text is free of is not spelled inside it. -/
theorem FreeOf.ne_append {words : List (List Char)} {s chars word : List Char}
    (free : FreeOf words s) (listed : word ∈ words) (spelled : Spells chars word)
    (left right : List Char) : s ≠ left ++ (chars ++ right) :=
  fun split => free word listed (infix_map_folded_iff.mpr ⟨left, chars, right, split, spelled⟩)

/-- Blanks in front of something visible are cut off in one way only. -/
theorem blanks_inj {front front' s s' : List Char} {c c' : Char}
    (blank : ∀ d ∈ front, isBlank d = true) (blank' : ∀ d ∈ front', isBlank d = true)
    (visible : isBlank c = false) (visible' : isBlank c' = false)
    (same : front ++ c :: s = front' ++ c' :: s') : front = front' ∧ c :: s = c' :: s' := by
  rcases List.append_eq_append_iff.mp same with ⟨more, rfl, split⟩ | ⟨more, rfl, split⟩
  · cases more with
    | nil => exact ⟨(List.append_nil front).symm, split⟩
    | cons d more =>
      have := blank' d (List.mem_append_right front List.mem_cons_self)
      rw [← (List.cons.inj split).1, visible] at this
      cases this
  · cases more with
    | nil => exact ⟨List.append_nil front', split.symm⟩
    | cons d more =>
      have := blank d (List.mem_append_right front' List.mem_cons_self)
      rw [← (List.cons.inj split).1, visible'] at this
      cases this

/-- Words that do not run into each other. -/
structure Connectives (words : List (List Char)) : Prop where
  small : ∀ word ∈ words, Small word
  /-- each starts with something visible -/
  starts : ∀ word ∈ words, (word.head?.any fun c => !isBlank c) = true
  /-- none starts another one -/
  apart : ∀ word ∈ words, ∀ other ∈ words, word <+: other → word = other
  /-- none goes on behind one of its spaces like another one starts -/
  inside : ∀ word ∈ words, ∀ tail ∈ word.tails, tail ≠ [' '] ∧
    ∀ other ∈ words, ¬ ' ' :: other.take 1 <+: tail

variable {words : List (List Char)} {p : Phrase} {parts : List (List Char)}

namespace Connectives

/-- A spelling of a connective starts visibly. -/
theorem exists_cons (connectives : Connectives words) {word chars : List Char}
    (listed : word ∈ words) (spelled : Spells chars word) :
    ∃ c tail, chars = c :: tail ∧ isBlank c = false :=
  exists_cons_of_spells (connectives.starts word listed) spelled

/-- One connective at most is spelled at the front of a text. -/
theorem spelling_inj (connectives : Connectives words) {word other chars chars' s s' : List Char}
    (listed : word ∈ words) (listed' : other ∈ words) (spelled : Spells chars word)
    (spelled' : Spells chars' other) (same : chars ++ s = chars' ++ s') : word = other := by
  have front : word <+: (chars ++ s).map folded := ⟨s.map folded, by rw [List.map_append, spelled]⟩
  have front' : other <+: (chars ++ s).map folded :=
    ⟨s'.map folded, by rw [same, List.map_append, spelled']⟩
  rcases List.prefix_or_prefix_of_prefix front front' with shorter | longer
  · exact connectives.apart word listed other listed' shorter
  · exact (connectives.apart other listed' word listed longer).symm

/-- **A connective behind a space is read.** -/
theorem parts?_spaced (connectives : Connectives words) {word chars s : List Char}
    (listed : word ∈ words) (spelled : Spells chars word) (found : p.parts? s = some parts) :
    parts? (.spaced words :: p) (' ' :: (chars ++ s)) = some parts := by
  obtain ⟨c, tail, form, visible⟩ := connectives.exists_cons listed spelled
  have space : ∀ d ∈ [' '], isBlank d = true := List.forall_mem_singleton.mpr (by decide)
  have gap : IsGap [' '] := ⟨List.cons_ne_nil _ _, space⟩
  simp only [parts?, spacedPhrase]
  refine findSome?_of_only listed ?_ fun other listed' different => ?_
  · have starts := head?_append_of_spells (connectives.starts word listed) spelled s
    have own : (phrase? word (chars ++ s)).bind p.parts? = some parts := by
      rw [phrase?_append (connectives.small word listed) spelled, Option.bind_some, found]
    exact many1_append gap starts own
  · -- another connective would be spelled at the same place
    rw [← Option.not_isSome_iff_eq_none, Option.isSome_iff_exists]
    rintro ⟨_, read⟩
    obtain ⟨front, behind, split, gap', bound⟩ := many1_eq_some read
    obtain ⟨rest, read', _⟩ := Option.bind_eq_some_iff.mp bound
    obtain ⟨chars', rfl, spelled'⟩ :=
      (phrase?_eq_some_iff (connectives.small other listed')).mp read'
    obtain ⟨c', tail', form', visible'⟩ := connectives.exists_cons listed' spelled'
    rw [form, form', List.cons_append, List.cons_append, ← List.singleton_append] at split
    have same := (blanks_inj space gap'.blank visible visible' split).2
    rw [← List.cons_append, ← List.cons_append, ← form, ← form'] at same
    exact different (connectives.spelling_inj listed' listed spelled' spelled same.symm)

/-- **No connective is read in front of the one that ends a part.** -/
theorem not_reads (connectives : Connectives words) {front word chars s : List Char}
    (free : FreeOf words front) (ends : (front.getLast?.all fun c => !isBlank c) = true)
    (listed : word ∈ words) (spelled : Spells chars word) {left right : List Char}
    (split : front = left ++ right) (nonempty : right ≠ []) (others : List (List Char)) :
    ¬ Reads (.spaced words :: p) (right ++ ' ' :: (chars ++ s)) others := by
  rintro ⟨other, listed', gap, behind, rest, whole, isGap, found, _⟩
  obtain ⟨chars', rfl, spelled'⟩ :=
    (phrase?_eq_some_iff (connectives.small other listed')).mp found
  -- the end of the part is visible, so blanks cannot reach it
  have visible : ¬ ∀ c ∈ right, isBlank c = true := by
    intro blank
    rw [split, List.getLast?_append_of_ne_nil left nonempty,
      List.getLast?_eq_some_getLast nonempty, Option.all_some,
      blank _ (List.getLast_mem nonempty)] at ends
    cases ends
  rcases List.append_eq_append_iff.mp whole with ⟨more, reached, _⟩ | ⟨inner, inside, read⟩
  · exact visible fun c member =>
      isGap.blank c (by rw [reached]; exact List.mem_append_left more member)
  rcases List.append_eq_append_iff.mp read with ⟨more, within, _⟩ | ⟨tail, across, beyond⟩
  · refine free.ne_append listed' spelled' (left ++ gap) more ?_
    rw [split, inside, within, List.append_assoc]
  · -- the connective would go on over the space
    have tails : tail.map folded ∈ other.tails := by
      rw [List.mem_tails]
      exact ⟨inner.map folded, by rw [← List.map_append, ← across, spelled']⟩
    obtain ⟨space, clear⟩ := connectives.inside other listed' _ tails
    cases tail with
    | nil =>
      refine free.ne_append listed' spelled' (left ++ gap) [] ?_
      rw [split, inside, across, List.append_nil, List.append_nil, List.append_assoc]
    | cons d tail =>
      obtain ⟨rfl, later⟩ := List.cons.inj beyond
      obtain ⟨c, after, form, _⟩ := connectives.exists_cons listed spelled
      cases tail with
      | nil => exact space rfl
      | cons e tail =>
        rw [form] at later
        refine clear word listed ?_
        rw [← spelled, form, (List.cons.inj later).1]
        exact ⟨tail.map folded, rfl⟩

/-- **A part without connectives ends at the connective behind it.** -/
theorem parts?_part_spaced (connectives : Connectives words) {front word chars s : List Char}
    (nonempty : front ≠ []) (unbroken : '\n' ∉ front) (free : FreeOf words front)
    (ends : (front.getLast?.all fun c => !isBlank c) = true)
    (listed : word ∈ words) (spelled : Spells chars word) (found : p.parts? s = some parts) :
    parts? (.part :: .spaced words :: p) (front ++ ' ' :: (chars ++ s)) =
      some (front :: parts) :=
  parts?_part nonempty unbroken (connectives.parts?_spaced listed spelled found)
    fun _ _ split _ more => connectives.not_reads free ends listed spelled split more

end Connectives

end TestPlanner.Text
