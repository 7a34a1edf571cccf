import TestPlanner.Text.Phrase
import Mathlib.Data.List.Infix

/-!
# What phrases match

A phrase may be read in several ways at the front of a text, since a run of blanks may be cut short
and a part may be longer than it has to be (`Phrase.Reads`). The search tries the ways in a fixed
order and goes back where a choice leads nowhere. So it finds a way exactly if there is one, and
what it finds is one of them (`Phrase.isSome_parts?_iff`, `Phrase.reads_of_parts?`).

**Which way is found.** A part is as short as possible: it ends at the first place behind which the
rest of the phrase can be read (`Phrase.parts?_part`). A search finds the phrase at the leftmost
place where it can be read (`search_append`).
-/

set_option autoImplicit false

namespace TestPlanner.Text

universe u

variable {α : Type u} {next : List Char → Option α} {kind : Char → Bool} {s : List Char} {a : α}

/-- Blanks, at least one. -/
structure IsGap (s : List Char) : Prop where
  nonempty : s ≠ []
  blank : ∀ c ∈ s, isBlank c = true

/-! ## Runs -/

theorem many_eq_some (found : many kind next s = some a) :
    ∃ front rest, s = front ++ rest ∧ (∀ c ∈ front, kind c = true) ∧ next rest = some a := by
  induction s with
  | nil => exact ⟨[], [], rfl, List.forall_mem_nil _, found⟩
  | cons c s ih =>
    rw [many] at found
    split at found
    next same =>
      rcases Option.or_eq_some_iff.mp found with more | ⟨_, here⟩
      · obtain ⟨front, rest, rfl, all, later⟩ := ih more
        exact ⟨c :: front, rest, rfl, List.forall_mem_cons.mpr ⟨same, all⟩, later⟩
      · exact ⟨[], c :: s, rfl, List.forall_mem_nil _, here⟩
    next => exact ⟨[], c :: s, rfl, List.forall_mem_nil _, found⟩

theorem isSome_many {front rest : List Char} (all : ∀ c ∈ front, kind c = true)
    (found : (next rest).isSome = true) : (many kind next (front ++ rest)).isSome = true := by
  induction front with
  | nil =>
    cases rest with
    | nil => exact found
    | cons c rest =>
      rw [List.nil_append, many]
      split
      next => rw [Option.isSome_or, found, Bool.or_true]
      next => exact found
  | cons c front ih =>
    have later := ih fun d member => all d (List.mem_cons_of_mem c member)
    rw [List.cons_append, many, if_pos (all c List.mem_cons_self), Option.isSome_or, later,
      Bool.true_or]

/-- **A run is as long as possible.** It goes up to the first character of another kind, if the rest
can be read behind it. -/
theorem many_append {front rest : List Char} (all : ∀ c ∈ front, kind c = true)
    (stops : ∀ c ∈ rest.head?, kind c = false) (found : next rest = some a) :
    many kind next (front ++ rest) = some a := by
  induction front with
  | nil =>
    cases rest with
    | nil => exact found
    | cons c rest => rw [List.nil_append, many, stops c rfl, if_neg (by decide), found]
  | cons c front ih =>
    rw [List.cons_append, many, if_pos (all c List.mem_cons_self),
      ih fun d member => all d (List.mem_cons_of_mem c member), Option.some_or]

theorem many1_append {front rest : List Char} (gap : IsGap front)
    (stops : ∀ c ∈ rest.head?, isBlank c = false) (found : next rest = some a) :
    many1 isBlank next (front ++ rest) = some a := by
  cases front with
  | nil => exact absurd rfl gap.nonempty
  | cons c front =>
    rw [List.cons_append, many1, if_pos (gap.blank c List.mem_cons_self)]
    exact many_append (fun d member => gap.blank d (List.mem_cons_of_mem c member)) stops found

theorem many1_eq_some (found : many1 isBlank next s = some a) :
    ∃ front rest, s = front ++ rest ∧ IsGap front ∧ next rest = some a := by
  cases s with
  | nil => cases found
  | cons c s =>
    rw [many1] at found
    split at found
    next blank =>
      obtain ⟨front, rest, rfl, all, later⟩ := many_eq_some found
      exact ⟨c :: front, rest, rfl,
        ⟨List.cons_ne_nil c front, List.forall_mem_cons.mpr ⟨blank, all⟩⟩, later⟩
    next => cases found

theorem isSome_many1 {front rest : List Char} (gap : IsGap front)
    (found : (next rest).isSome = true) : (many1 isBlank next (front ++ rest)).isSome = true := by
  cases front with
  | nil => exact absurd rfl gap.nonempty
  | cons c front =>
    rw [List.cons_append, many1, if_pos (gap.blank c List.mem_cons_self)]
    exact isSome_many (fun d member => gap.blank d (List.mem_cons_of_mem c member)) found

/-! ## Parts -/

theorem shortest_eq_some {r : List Char × α} (found : shortest next s = some r) :
    ∃ rest, s = r.1 ++ rest ∧ r.1 ≠ [] ∧ '\n' ∉ r.1 ∧ next rest = some r.2 := by
  induction s generalizing r with
  | nil => cases found
  | cons c s ih =>
    rw [shortest] at found
    split at found
    next => cases found
    next other =>
      have other : '\n' ≠ c := fun same => other (beq_iff_eq.mpr same.symm)
      rcases Option.or_eq_some_iff.mp found with here | ⟨_, later⟩
      · obtain ⟨b, behind, rfl⟩ := Option.map_eq_some_iff.mp here
        exact ⟨s, rfl, List.cons_ne_nil c [], by simpa using other, behind⟩
      · obtain ⟨tail, shorter, rfl⟩ := Option.map_eq_some_iff.mp later
        obtain ⟨rest, split, _, unbroken, behind⟩ := ih shorter
        exact ⟨rest, by rw [split, List.cons_append], List.cons_ne_nil c tail.1,
          by simp [other, unbroken], behind⟩

/-- **A part ends at the first place behind which the rest can be read.** -/
theorem shortest_append {front rest : List Char} (nonempty : front ≠ []) (unbroken : '\n' ∉ front)
    (found : next rest = some a)
    (earlier : ∀ left right, front = left ++ right → left ≠ [] → right ≠ [] →
      next (right ++ rest) = none) :
    shortest next (front ++ rest) = some (front, a) := by
  induction front with
  | nil => exact absurd rfl nonempty
  | cons c front ih =>
    have other : (c == '\n') = false := by
      refine beq_eq_false_iff_ne.mpr ?_
      rintro rfl
      exact unbroken List.mem_cons_self
    rw [List.cons_append, shortest, other, if_neg (by decide)]
    cases front with
    | nil => rw [List.nil_append, found, Option.map_some, Option.some_or]
    | cons d front =>
      have here : next (d :: front ++ rest) = none :=
        earlier [c] (d :: front) rfl (List.cons_ne_nil c []) (List.cons_ne_nil d front)
      have later := ih (List.cons_ne_nil d front)
        (fun member => unbroken (List.mem_cons_of_mem c member))
        fun left right split _ more =>
          earlier (c :: left) right (by rw [split, List.cons_append]) (List.cons_ne_nil c left) more
      rw [here, later, Option.map_none, Option.none_or, Option.map_some]

theorem isSome_shortest {front rest : List Char} (nonempty : front ≠ []) (unbroken : '\n' ∉ front)
    (found : (next rest).isSome = true) :
    (shortest next (front ++ rest)).isSome = true := by
  induction front with
  | nil => exact absurd rfl nonempty
  | cons c front ih =>
    have other : (c == '\n') = false := by
      refine beq_eq_false_iff_ne.mpr ?_
      rintro rfl
      exact unbroken List.mem_cons_self
    rw [List.cons_append, shortest, other, if_neg (by decide), Option.isSome_or, Option.isSome_map,
      Option.isSome_map]
    cases front with
    | nil => rw [List.nil_append, found, Bool.true_or]
    | cons d front =>
      rw [ih (List.cons_ne_nil d front) fun member => unbroken (List.mem_cons_of_mem c member),
        Bool.or_true]

/-! ## Words with blanks in front -/

theorem spacedPhrase_eq_some {options : List (List Char)}
    (found : spacedPhrase options next s = some a) :
    ∃ word ∈ options, ∃ front behind rest, s = front ++ behind ∧ IsGap front ∧
      phrase? word behind = some rest ∧ next rest = some a := by
  obtain ⟨word, listed, found⟩ := List.exists_of_findSome?_eq_some found
  obtain ⟨front, behind, rfl, gap, found⟩ := many1_eq_some found
  obtain ⟨rest, read, found⟩ := Option.bind_eq_some_iff.mp found
  exact ⟨word, listed, front, behind, rest, rfl, gap, read, found⟩

theorem isSome_spacedPhrase {options : List (List Char)} {word front behind rest : List Char}
    (listed : word ∈ options) (gap : IsGap front) (read : phrase? word behind = some rest)
    (found : (next rest).isSome = true) :
    (spacedPhrase options next (front ++ behind)).isSome = true := by
  rw [spacedPhrase, List.findSome?_isSome_iff]
  refine ⟨word, listed, isSome_many1 gap ?_⟩
  rw [read, Option.bind_some, found]

/-! ## Searches -/

/-- **A search passes over places where nothing is found.** -/
theorem search_append {front : List Char} {recognise : List Char → Option α}
    (none : ∀ left right, front = left ++ right → right ≠ [] → recognise (right ++ s) = none) :
    search recognise (front ++ s) = search recognise s := by
  induction front with
  | nil => rfl
  | cons c front ih =>
    rw [List.cons_append, search, ← List.cons_append,
      none [] (c :: front) rfl (List.cons_ne_nil c front), Option.none_or]
    exact ih fun left right split =>
      none (c :: left) right (by rw [split, List.cons_append])

theorem search_of_some {recognise : List Char → Option α} (found : recognise s = some a) :
    search recognise s = some a := by
  cases s with
  | nil => exact found
  | cons c s => rw [search, found, Option.some_or]

/-! ## Phrases -/

namespace Phrase

/-- The ways to read a phrase at the front of a text, with its parts. -/
def Reads : Phrase → List Char → List (List Char) → Prop
  | [], _, parts => parts = []
  | .word w :: p, s, parts => ∃ rest, phrase? w s = some rest ∧ Reads p rest parts
  | .perhaps w :: p, s, parts =>
    (∃ rest, phrase? w s = some rest ∧ Reads p rest parts) ∨ Reads p s parts
  | .run kind :: p, s, parts =>
    ∃ front rest, s = front ++ rest ∧ (∀ c ∈ front, kind c = true) ∧ Reads p rest parts
  | .gap :: p, s, parts => ∃ front rest, s = front ++ rest ∧ IsGap front ∧ Reads p rest parts
  | .spaced options :: p, s, parts =>
    ∃ word ∈ options, ∃ front behind rest, s = front ++ behind ∧ IsGap front ∧
      phrase? word behind = some rest ∧ Reads p rest parts
  | .perhapsSpaced w :: p, s, parts =>
    (∃ front behind rest, s = front ++ behind ∧ IsGap front ∧ phrase? w behind = some rest ∧
      Reads p rest parts) ∨ Reads p s parts
  | .part :: p, s, parts =>
    ∃ front rest others, s = front ++ rest ∧ front ≠ [] ∧ '\n' ∉ front ∧
      parts = front :: others ∧ Reads p rest others
  | .stop c :: p, s, parts => (s = [] ∨ s.head? = some c) ∧ Reads p s parts

variable {p : Phrase} {parts : List (List Char)}

/-- **What is found is a way to read the phrase.** -/
theorem reads_of_parts? (found : p.parts? s = some parts) : p.Reads s parts := by
  induction p generalizing s parts with
  | nil => exact (Option.some.inj found).symm
  | cons step p ih =>
    cases step with
    | word w =>
      obtain ⟨rest, read, later⟩ := Option.bind_eq_some_iff.mp found
      exact ⟨rest, read, ih later⟩
    | perhaps w =>
      rcases Option.or_eq_some_iff.mp found with here | ⟨_, later⟩
      · obtain ⟨rest, read, later⟩ := Option.bind_eq_some_iff.mp here
        exact .inl ⟨rest, read, ih later⟩
      · exact .inr (ih later)
    | run kind =>
      obtain ⟨front, rest, split, all, later⟩ := many_eq_some found
      exact ⟨front, rest, split, all, ih later⟩
    | gap =>
      obtain ⟨front, rest, split, gap, later⟩ := many1_eq_some found
      exact ⟨front, rest, split, gap, ih later⟩
    | spaced options =>
      obtain ⟨word, listed, front, behind, rest, split, gap, read, later⟩ :=
        spacedPhrase_eq_some found
      exact ⟨word, listed, front, behind, rest, split, gap, read, ih later⟩
    | perhapsSpaced w =>
      rcases Option.or_eq_some_iff.mp found with here | ⟨_, later⟩
      · obtain ⟨word, listed, front, behind, rest, split, gap, read, later⟩ :=
          spacedPhrase_eq_some here
        rw [List.mem_singleton.mp listed] at read
        exact .inl ⟨front, behind, rest, split, gap, read, ih later⟩
      · exact .inr (ih later)
    | part =>
      obtain ⟨r, part, rfl⟩ := Option.map_eq_some_iff.mp found
      obtain ⟨rest, split, nonempty, unbroken, later⟩ := shortest_eq_some part
      exact ⟨r.1, rest, r.2, split, nonempty, unbroken, rfl, ih later⟩
    | stop c =>
      obtain ⟨_, stop, later⟩ := Option.bind_eq_some_iff.mp found
      refine ⟨?_, ih later⟩
      cases s with
      | nil => exact .inl rfl
      | cons d s =>
        rw [atStop] at stop
        split at stop
        next same => exact .inr (by rw [List.head?_cons, beq_iff_eq.mp same])
        next => cases stop

/-- Where a phrase can be read, it is found. -/
theorem isSome_parts?_of_reads (reads : p.Reads s parts) : (p.parts? s).isSome = true := by
  induction p generalizing s parts with
  | nil => rfl
  | cons step p ih =>
    cases step with
    | word w =>
      obtain ⟨rest, read, later⟩ := reads
      simp only [parts?, read, Option.bind_some, ih later]
    | perhaps w =>
      simp only [parts?, Option.isSome_or, Bool.or_eq_true]
      rcases reads with ⟨rest, read, later⟩ | later
      · rw [read, Option.bind_some, ih later]
        exact .inl rfl
      · exact .inr (ih later)
    | run kind =>
      obtain ⟨front, rest, rfl, all, later⟩ := reads
      exact isSome_many all (ih later)
    | gap =>
      obtain ⟨front, rest, rfl, gap, later⟩ := reads
      exact isSome_many1 gap (ih later)
    | spaced options =>
      obtain ⟨word, listed, front, behind, rest, rfl, gap, read, later⟩ := reads
      exact isSome_spacedPhrase listed gap read (ih later)
    | perhapsSpaced w =>
      simp only [parts?, Option.isSome_or, Bool.or_eq_true]
      rcases reads with ⟨front, behind, rest, rfl, gap, read, later⟩ | later
      · exact .inl (isSome_spacedPhrase (List.mem_singleton_self w) gap read (ih later))
      · exact .inr (ih later)
    | part =>
      obtain ⟨front, rest, others, rfl, nonempty, unbroken, _, later⟩ := reads
      rw [parts?, Option.isSome_map]
      exact isSome_shortest nonempty unbroken (ih later)
    | stop c =>
      obtain ⟨stop, later⟩ := reads
      have stops : atStop c s = some () := by
        rcases stop with rfl | first
        · rfl
        · obtain ⟨tail, rfl⟩ := List.head?_eq_some_iff.mp first
          rw [atStop, if_pos (beq_self_eq_true c)]
      simp only [parts?, stops, Option.bind_some, ih later]

/-- **A phrase is found exactly where it can be read.** -/
theorem isSome_parts?_iff : (p.parts? s).isSome = true ↔ ∃ parts, p.Reads s parts := by
  constructor
  · intro found
    obtain ⟨parts, found⟩ := Option.isSome_iff_exists.mp found
    exact ⟨parts, reads_of_parts? found⟩
  · rintro ⟨parts, reads⟩
    exact isSome_parts?_of_reads reads

theorem parts?_eq_none_iff : p.parts? s = none ↔ ∀ parts, ¬ p.Reads s parts := by
  rw [← Option.not_isSome_iff_eq_none, isSome_parts?_iff, not_exists]

/-- **A part of a phrase is as short as possible.** It ends where the rest of the phrase can be read,
and nowhere in front of it. -/
theorem parts?_part {front : List Char} (nonempty : front ≠ []) (unbroken : '\n' ∉ front)
    (found : p.parts? s = some parts)
    (earlier : ∀ left right, front = left ++ right → left ≠ [] → right ≠ [] →
      ∀ others, ¬ p.Reads (right ++ s) others) :
    parts? (.part :: p) (front ++ s) = some (front :: parts) := by
  have cut := shortest_append nonempty unbroken found fun left right split before behind =>
    parts?_eq_none_iff.mpr (earlier left right split before behind)
  simp only [parts?, cut, Option.map_some]

end Phrase

end TestPlanner.Text
