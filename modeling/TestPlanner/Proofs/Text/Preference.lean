import TestPlanner.Proofs.FirstOccurrence
import TestPlanner.Proofs.Text.Phrase

/-!
# Which way a phrase is read

Where a phrase can be read in several ways, one of them is preferred. Step by step, the first choice
is taken behind which the rest of the phrase can be read: what may be missing is read, the words of a
list are tried in its order, runs and gaps are as long as possible, and parts as short as possible
(`Phrase.Prefers`).

The search finds the preferred way and no other (`Phrase.parts?_eq_some_iff`), and it finds it at the
leftmost place where the phrase can be read in any way (`Phrase.find?_eq_some_iff`).
-/

set_option autoImplicit false

namespace TestPlanner.Text

universe u

variable {α : Type u} {next : List Char → Option α} {kind : Char → Bool} {s : List Char} {a : α}

/-! ## Runs, parts and words -/

theorem many_eq_none_iff : many kind next s = none ↔
    ∀ left right, s = left ++ right → (∀ c ∈ left, kind c = true) → next right = none := by
  constructor
  · rintro none left right rfl all
    by_contra found
    have later := isSome_many all (Option.isSome_iff_ne_none.mpr found)
    rw [none] at later
    cases later
  · intro none
    rw [← Option.not_isSome_iff_eq_none, Option.isSome_iff_exists]
    rintro ⟨a, found⟩
    obtain ⟨left, right, split, all, found⟩ := many_eq_some found
    rw [none left right split all] at found
    cases found

/-- **A run ends at the last place behind which the rest can be read.** -/
theorem many_eq_some_iff : many kind next s = some a ↔
    ∃ front rest, s = front ++ rest ∧ (∀ c ∈ front, kind c = true) ∧ next rest = some a ∧
      ∀ left right, rest = left ++ right → left ≠ [] → (∀ c ∈ left, kind c = true) →
        next right = none := by
  induction s with
  | nil =>
    constructor
    · intro found
      refine ⟨[], [], rfl, List.forall_mem_nil _, found, fun left right split more => ?_⟩
      exact absurd (List.append_eq_nil_iff.mp split.symm).1 more
    · rintro ⟨front, rest, split, _, found, _⟩
      rwa [(List.append_eq_nil_iff.mp split.symm).2] at found
  | cons c s ih =>
    rw [many]
    by_cases same : kind c = true
    · rw [if_pos same, Option.or_eq_some_iff, ih, many_eq_none_iff]
      constructor
      · rintro (⟨front, rest, rfl, all, found, longest⟩ | ⟨none, found⟩)
        · exact ⟨c :: front, rest, rfl, List.forall_mem_cons.mpr ⟨same, all⟩, found, longest⟩
        · refine ⟨[], c :: s, rfl, List.forall_mem_nil _, found, fun left right split more all => ?_⟩
          cases left with
          | nil => exact absurd rfl more
          | cons d left =>
            exact none left right (List.cons.inj split).2 (List.forall_mem_cons.mp all).2
      · rintro ⟨front, rest, split, all, found, longest⟩
        cases front with
        | nil =>
          rw [List.nil_append] at split
          subst split
          refine .inr ⟨fun left right split all' => ?_, found⟩
          exact longest (c :: left) right (by rw [split, List.cons_append]) (List.cons_ne_nil c left)
            (List.forall_mem_cons.mpr ⟨same, all'⟩)
        | cons d front =>
          exact .inl ⟨front, rest, (List.cons.inj split).2, (List.forall_mem_cons.mp all).2, found,
            longest⟩
    · rw [if_neg same]
      constructor
      · intro found
        refine ⟨[], c :: s, rfl, List.forall_mem_nil _, found, fun left right split more all => ?_⟩
        obtain ⟨d, left, rfl⟩ := List.exists_cons_of_ne_nil more
        rw [(List.cons.inj split).1] at same
        exact absurd (all d List.mem_cons_self) same
      · rintro ⟨front, rest, split, all, found, _⟩
        cases front with
        | nil => rwa [← List.nil_append rest, ← split] at found
        | cons d front =>
          rw [(List.cons.inj split).1] at same
          exact absurd (all d List.mem_cons_self) same

theorem many1_eq_some_iff : many1 isBlank next s = some a ↔
    ∃ front rest, s = front ++ rest ∧ IsGap front ∧ next rest = some a ∧
      ∀ left right, rest = left ++ right → left ≠ [] → (∀ c ∈ left, isBlank c = true) →
        next right = none := by
  cases s with
  | nil =>
    simp only [many1, reduceCtorEq, false_iff]
    rintro ⟨front, rest, split, gap, _⟩
    exact gap.nonempty (List.append_eq_nil_iff.mp split.symm).1
  | cons c s =>
    rw [many1]
    constructor
    · intro found
      split at found
      next blank =>
        obtain ⟨front, rest, rfl, all, found, longest⟩ := many_eq_some_iff.mp found
        exact ⟨c :: front, rest, rfl,
          ⟨List.cons_ne_nil c front, List.forall_mem_cons.mpr ⟨blank, all⟩⟩, found, longest⟩
      next => cases found
    · rintro ⟨front, rest, split, gap, found, longest⟩
      obtain ⟨d, front, rfl⟩ := List.exists_cons_of_ne_nil gap.nonempty
      obtain ⟨rfl, rfl⟩ := List.cons.inj split
      obtain ⟨blank, all⟩ := List.forall_mem_cons.mp gap.blank
      rw [if_pos blank]
      exact many_eq_some_iff.mpr ⟨front, rest, rfl, all, found, longest⟩

/-- **A part ends at the first place behind which the rest can be read.** -/
theorem shortest_eq_some_iff {r : List Char × α} : shortest next s = some r ↔
    ∃ rest, s = r.1 ++ rest ∧ r.1 ≠ [] ∧ '\n' ∉ r.1 ∧ next rest = some r.2 ∧
      ∀ left right, r.1 = left ++ right → left ≠ [] → right ≠ [] →
        next (right ++ rest) = none := by
  constructor
  · intro found
    induction s generalizing r with
    | nil => cases found
    | cons c s ih =>
      obtain ⟨rest, split, nonempty, unbroken, behind⟩ := shortest_eq_some found
      refine ⟨rest, split, nonempty, unbroken, behind, fun left right cut before after => ?_⟩
      rw [shortest] at found
      split at found
      next => cases found
      next =>
        rcases Option.or_eq_some_iff.mp found with here | ⟨none, later⟩
        · obtain ⟨b, _, rfl⟩ := Option.map_eq_some_iff.mp here
          rcases List.append_eq_singleton_iff.mp cut.symm with ⟨empty, _⟩ | ⟨_, empty⟩
          · exact absurd empty before
          · exact absurd empty after
        · obtain ⟨tail, shorter, rfl⟩ := Option.map_eq_some_iff.mp later
          obtain ⟨rest', split', _, _, _, earlier⟩ := ih shorter
          have same : rest = rest' := by
            rw [split', List.cons_append] at split
            exact (List.append_cancel_left (List.cons.inj split).2).symm
          obtain ⟨d, left, rfl⟩ := List.exists_cons_of_ne_nil before
          have cut' : tail.1 = left ++ right := (List.cons.inj cut).2
          cases left with
          | nil =>
            rw [List.nil_append] at cut'
            rwa [same, ← cut', ← split', ← Option.map_eq_none_iff]
          | cons e left =>
            rw [same]
            exact earlier (e :: left) right cut' (List.cons_ne_nil e left) after
  · rintro ⟨rest, rfl, nonempty, unbroken, behind, earlier⟩
    exact shortest_append nonempty unbroken behind earlier

/-- **The first of several words is read that can be.** -/
theorem spacedPhrase_eq_some_iff {options : List (List Char)} :
    spacedPhrase options next s = some a ↔
      ∃ before word after, options = before ++ word :: after ∧
        many1 isBlank (fun rest => (phrase? word rest).bind next) s = some a ∧
        ∀ other ∈ before, many1 isBlank (fun rest => (phrase? other rest).bind next) s = none :=
  List.findSome?_eq_some_iff

/-! ## Searches -/

theorem search_eq_none_iff {recognise : List Char → Option α} : search recognise s = none ↔
    ∀ left right, s = left ++ right → recognise right = none := by
  induction s with
  | nil =>
    rw [search]
    constructor
    · intro none left right split
      rwa [(List.append_eq_nil_iff.mp split.symm).2]
    · exact fun none => none [] [] rfl
  | cons c s ih =>
    rw [search, Option.or_eq_none_iff, ih]
    constructor
    · rintro ⟨here, later⟩ left right split
      cases left with
      | nil =>
        rw [List.nil_append] at split
        rwa [← split]
      | cons d left => exact later left right (List.cons.inj split).2
    · exact fun none => ⟨none [] (c :: s) rfl, fun left right split =>
        none (c :: left) right (by rw [split, List.cons_append])⟩

/-- **A search finds what is recognised at the leftmost place.** -/
theorem search_eq_some_iff {recognise : List Char → Option α} : search recognise s = some a ↔
    ∃ left right, s = left ++ right ∧ recognise right = some a ∧
      ∀ before between, left = before ++ between → between ≠ [] →
        recognise (between ++ right) = none := by
  constructor
  · intro found
    have occurs : ∃ left right, s = left ++ right ∧ (recognise right).isSome = true := by
      by_contra nowhere
      have none : search recognise s = none := by
        refine search_eq_none_iff.mpr fun left right split => ?_
        by_contra some
        exact nowhere ⟨left, right, split, Option.isSome_iff_ne_none.mpr some⟩
      rw [none] at found
      cases found
    obtain ⟨left, right, rfl, here, first⟩ := exists_first_rest occurs
    have earlier : ∀ before between, left = before ++ between → between ≠ [] →
        recognise (between ++ right) = none := fun before between split more =>
      Option.not_isSome_iff_eq_none.mp (first before between split more)
    obtain ⟨b, here⟩ := Option.isSome_iff_exists.mp here
    rw [search_append earlier, search_of_some here] at found
    exact ⟨left, right, rfl, here.trans found, earlier⟩
  · rintro ⟨left, right, rfl, here, earlier⟩
    rw [search_append earlier, search_of_some here]

/-! ## Preferred ways -/

namespace Phrase

/-- A phrase can be read at the front of a text. -/
def Readable (p : Phrase) (s : List Char) : Prop := ∃ parts, p.Reads s parts

theorem not_readable_iff {p : Phrase} {s : List Char} : ¬ p.Readable s ↔ p.parts? s = none := by
  rw [parts?_eq_none_iff, Readable, not_exists]

/-- A run of characters of a kind cannot be longer if the phrase is to be read behind it. -/
def Longest (kind : Char → Bool) (p : Phrase) (rest : List Char) : Prop :=
  ∀ left right, rest = left ++ right → left ≠ [] → (∀ c ∈ left, kind c = true) →
    ¬ p.Readable right

/-- The preferred way to read a phrase at the front of a text, with its parts. -/
def Prefers : Phrase → List Char → List (List Char) → Prop
  | [], _, parts => parts = []
  | .word w :: p, s, parts => ∃ rest, phrase? w s = some rest ∧ Prefers p rest parts
  | .perhaps w :: p, s, parts =>
    (∃ rest, phrase? w s = some rest ∧ Prefers p rest parts) ∨
      ¬ Readable (.word w :: p) s ∧ Prefers p s parts
  | .run kind :: p, s, parts =>
    ∃ front rest, s = front ++ rest ∧ (∀ c ∈ front, kind c = true) ∧ Prefers p rest parts ∧
      Longest kind p rest
  | .gap :: p, s, parts =>
    ∃ front rest, s = front ++ rest ∧ IsGap front ∧ Prefers p rest parts ∧ Longest isBlank p rest
  | .spaced options :: p, s, parts =>
    ∃ before word after, options = before ++ word :: after ∧
      (∃ front behind rest, s = front ++ behind ∧ IsGap front ∧ phrase? word behind = some rest ∧
        Prefers p rest parts ∧ Longest isBlank (.word word :: p) behind) ∧
      ∀ other ∈ before, ¬ Readable (.gap :: .word other :: p) s
  | .perhapsSpaced w :: p, s, parts =>
    (∃ front behind rest, s = front ++ behind ∧ IsGap front ∧ phrase? w behind = some rest ∧
      Prefers p rest parts ∧ Longest isBlank (.word w :: p) behind) ∨
      ¬ Readable (.gap :: .word w :: p) s ∧ Prefers p s parts
  | .part :: p, s, parts =>
    ∃ front rest others, s = front ++ rest ∧ front ≠ [] ∧ '\n' ∉ front ∧
      parts = front :: others ∧ Prefers p rest others ∧
      ∀ left right, front = left ++ right → left ≠ [] → right ≠ [] →
        ¬ Readable p (right ++ rest)
  | .stop c :: p, s, parts => (s = [] ∨ s.head? = some c) ∧ Prefers p s parts

variable {p : Phrase} {parts : List (List Char)}

/-- A gap with a word behind it is read as far as blanks go in front of that word. -/
theorem gapWord_eq_some_iff {w : List Char}
    (ih : ∀ {s parts}, p.parts? s = some parts ↔ p.Prefers s parts) :
    many1 isBlank (fun rest => (phrase? w rest).bind p.parts?) s = some parts ↔
      ∃ front behind rest, s = front ++ behind ∧ IsGap front ∧ phrase? w behind = some rest ∧
        p.Prefers rest parts ∧ Longest isBlank (.word w :: p) behind := by
  rw [many1_eq_some_iff]
  simp only [Option.bind_eq_some_iff, ih, Longest, not_readable_iff, parts?]
  constructor
  · rintro ⟨front, behind, split, gap, ⟨rest, read, later⟩, longest⟩
    exact ⟨front, behind, rest, split, gap, read, later, longest⟩
  · rintro ⟨front, behind, rest, split, gap, read, later, longest⟩
    exact ⟨front, behind, split, gap, ⟨rest, read, later⟩, longest⟩

/-- **The preferred way is found, and no other.** -/
theorem parts?_eq_some_iff : p.parts? s = some parts ↔ p.Prefers s parts := by
  induction p generalizing s parts with
  | nil => exact ⟨fun found => (Option.some.inj found).symm, fun none => congrArg some none.symm⟩
  | cons step p ih =>
    cases step with
    | word w => simp only [parts?, Option.bind_eq_some_iff, ih, Prefers]
    | perhaps w =>
      simp only [parts?, Option.or_eq_some_iff, Option.bind_eq_some_iff, ih, Prefers,
        not_readable_iff]
    | run kind =>
      simp only [parts?, many_eq_some_iff, ih, Prefers, Longest, not_readable_iff]
    | gap =>
      simp only [parts?, many1_eq_some_iff, ih, Prefers, Longest, not_readable_iff]
    | spaced options =>
      simp only [parts?, spacedPhrase_eq_some_iff, gapWord_eq_some_iff ih, Prefers,
        not_readable_iff]
    | perhapsSpaced w =>
      have single : ∀ {t}, spacedPhrase [w] (parts? p) t =
          many1 isBlank (fun rest => (phrase? w rest).bind (parts? p)) t := by
        intro t
        rw [spacedPhrase, List.findSome?_singleton]
      simp only [parts?, Option.or_eq_some_iff, single, gapWord_eq_some_iff ih, ih, Prefers,
        not_readable_iff]
    | part =>
      simp only [parts?, Option.map_eq_some_iff, shortest_eq_some_iff, ih, Prefers,
        not_readable_iff]
      constructor
      · rintro ⟨r, ⟨rest, split, nonempty, unbroken, later, earlier⟩, rfl⟩
        exact ⟨r.1, rest, r.2, split, nonempty, unbroken, rfl, later, earlier⟩
      · rintro ⟨front, rest, others, split, nonempty, unbroken, rfl, later, earlier⟩
        exact ⟨(front, others), ⟨rest, split, nonempty, unbroken, later, earlier⟩, rfl⟩
    | stop c =>
      have stops : atStop c s = some () ↔ s = [] ∨ s.head? = some c := by
        cases s with
        | nil => simp [atStop]
        | cons d s => simp [atStop]
      simp only [parts?, Option.bind_eq_some_iff, ih, Prefers, ← stops]
      constructor
      · rintro ⟨_, here, later⟩
        exact ⟨here, later⟩
      · rintro ⟨here, later⟩
        exact ⟨(), here, later⟩

/-- How many parts a phrase has. -/
def arity : Phrase → Nat
  | [] => 0
  | .part :: p => arity p + 1
  | _ :: p => arity p

theorem length_of_reads (reads : p.Reads s parts) : parts.length = p.arity := by
  induction p generalizing s parts with
  | nil =>
    rw [show parts = [] from reads]
    rfl
  | cons step p ih =>
    cases step with
    | word w =>
      obtain ⟨_, _, later⟩ := reads
      exact ih later
    | perhaps w =>
      obtain ⟨_, _, later⟩ | later := reads
      · exact ih later
      · exact ih later
    | run kind =>
      obtain ⟨_, _, _, _, later⟩ := reads
      exact ih later
    | gap =>
      obtain ⟨_, _, _, _, later⟩ := reads
      exact ih later
    | spaced options =>
      obtain ⟨_, _, _, _, _, _, _, _, later⟩ := reads
      exact ih later
    | perhapsSpaced w =>
      obtain ⟨_, _, _, _, _, _, later⟩ | later := reads
      · exact ih later
      · exact ih later
    | part =>
      obtain ⟨_, _, others, _, _, _, rfl, later⟩ := reads
      rw [List.length_cons, ih later, arity]
    | stop c =>
      obtain ⟨_, later⟩ := reads
      exact ih later

/-! ## What a search finds -/

/-- A phrase is read in its preferred way at the leftmost place where it can be read. -/
def Found (p : Phrase) (s : List Char) (parts : List (List Char)) : Prop :=
  ∃ left right, s = left ++ right ∧ p.Prefers right parts ∧
    ∀ before between, left = before ++ between → between ≠ [] → ¬ p.Readable (between ++ right)

/-- A phrase can be read somewhere in a text. -/
def Occurs (p : Phrase) (s : List Char) : Prop :=
  ∃ left right, s = left ++ right ∧ p.Readable right

/-- **A search finds the preferred way at the leftmost place.** -/
theorem find?_eq_some_iff : p.find? s = some parts ↔ p.Found s parts := by
  simp only [find_eq, search_eq_some_iff, Found, parts?_eq_some_iff, not_readable_iff]

/-- A search finds nothing exactly if the phrase can be read nowhere. -/
theorem find?_eq_none_iff : p.find? s = none ↔ ¬ p.Occurs s := by
  simp only [find_eq, search_eq_none_iff, Occurs, ← not_readable_iff, not_exists, not_and]

theorem Found.reads (found : p.Found s parts) :
    ∃ left right, s = left ++ right ∧ p.Reads right parts := by
  obtain ⟨left, right, split, prefers, _⟩ := found
  exact ⟨left, right, split, reads_of_parts? (parts?_eq_some_iff.mpr prefers)⟩

theorem Found.length (found : p.Found s parts) : parts.length = p.arity := by
  obtain ⟨_, _, _, reads⟩ := found.reads
  exact length_of_reads reads

/-! ## The first of two phrases -/

/-- What is found of the first of two phrases that occurs. -/
def FoundEither (p q : Phrase) (s : List Char) (parts : List (List Char)) : Prop :=
  p.Found s parts ∨ ¬ p.Occurs s ∧ q.Found s parts

section

variable {q : Phrase} {parts' : List (List Char)}

theorem find?_or_eq_some_iff :
    (p.find? s).or (q.find? s) = some parts ↔ FoundEither p q s parts := by
  rw [Option.or_eq_some_iff, find?_eq_some_iff, find?_eq_some_iff, find?_eq_none_iff, FoundEither]

theorem FoundEither.unique (found : FoundEither p q s parts) (found' : FoundEither p q s parts') :
    parts = parts' := by
  rw [← find?_or_eq_some_iff] at found found'
  exact Option.some.inj (found.symm.trans found')

theorem FoundEither.length {n : Nat} (found : FoundEither p q s parts) (first : p.arity = n)
    (second : q.arity = n) : parts.length = n := by
  rcases found with found | ⟨_, found⟩
  · rw [found.length, first]
  · rw [found.length, second]

/-- Something is found exactly if one of the two phrases occurs. -/
theorem exists_foundEither_iff :
    (∃ parts, FoundEither p q s parts) ↔ p.Occurs s ∨ q.Occurs s := by
  simp only [← find?_or_eq_some_iff, ← Option.ne_none_iff_exists', ne_eq, Option.or_eq_none_iff,
    find?_eq_none_iff, not_and_or, not_not]

end

end Phrase

end TestPlanner.Text
