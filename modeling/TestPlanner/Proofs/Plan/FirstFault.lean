import TestPlanner.Plan.Validity
import TestPlanner.Proofs.Naming.Identifier

/-!
# The fault that the check finds

A plan may break several conditions at once. The check goes through them in a fixed order: the
feature name, the first step, the number of `Given` steps, the locator names, the locators of the
steps. What it finds is the first condition that is broken, and within the last two the first
locator, or the first step, that breaks it (`FirstFault`): all that comes before is in order.

It finds exactly that fault (`fault?_eq_some_iff`), and nothing exactly if all is in order
(`fault?_eq_none`).
-/

set_option autoImplicit false

namespace TestPlanner.Plan

open Text

/-- The feature name has a letter or digit. -/
def Usable (p : Plan) : Prop := ∃ c ∈ p.feature.toList, isAsciiAlphanumeric c = true

/-- The feature name is usable, and the one `Given` comes first. -/
structure Opened (p : Plan) : Prop where
  usable : p.Usable
  opening : ∃ first rest, p.steps = first :: rest ∧ first.keyword = .given ∧
    ∀ s ∈ rest, s.keyword ≠ .given

/-- The first condition that a plan breaks, as the fault that says so. -/
inductive FirstFault (p : Plan) : PlanFault → Prop where
  | unusableFeature (unusable : ¬ p.Usable) : FirstFault p (.unusableFeature p.feature)
  | noSteps (usable : p.Usable) (none : p.steps = []) : FirstFault p .noSteps
  | firstNotGiven (usable : p.Usable) {first : Step} {rest : List Step}
      (steps : p.steps = first :: rest) (other : first.keyword ≠ .given) :
      FirstFault p (.firstNotGiven first)
  | severalGivens (usable : p.Usable) {first : Step} {rest : List Step}
      (steps : p.steps = first :: rest) (given : first.keyword = .given)
      (again : ∃ s ∈ rest, s.keyword = .given) : FirstFault p (.severalGivens p.givenCount)
  /-- the first locator whose name occurred before, in any case -/
  | duplicateLocator (opened : p.Opened) {l : Locator} {earlier later : List Locator}
      (split : p.locators = earlier ++ l :: later)
      (repeated : lowered l.name ∈ earlier.map fun k => lowered k.name)
      (apart : (earlier.map fun k => lowered k.name).Nodup) :
      FirstFault p (.duplicateLocator l.name)
  /-- the first step whose locator the plan does not have under exactly that name -/
  | unknownLocator (opened : p.Opened) (apart : (p.locators.map fun l => lowered l.name).Nodup)
      {s : Step} {name : String} {earlier later : List Step}
      (split : p.steps = earlier ++ s :: later) (acts : s.locator = some name)
      (unknown : ∀ l ∈ p.locators, l.name ≠ name)
      (known : ∀ t ∈ earlier, ∀ other, t.locator = some other → ∃ l ∈ p.locators, l.name = other) :
      FirstFault p (.unknownLocator s name)

/-- A feature name is usable exactly if something of it is left for paths. -/
theorem usable_iff {p : Plan} : p.Usable ↔ p.safeName.isEmpty = false := by
  have chars : p.safeName.toList = Naming.alphanumerics p.feature.toList := String.toList_ofList
  rw [Usable, ← Naming.alphanumerics_ne_nil_iff, ← chars, Bool.eq_false_iff, ne_eq, ne_eq,
    String.isEmpty_iff, String.toList_eq_nil_iff]

/-! ## Repeated names -/

/-- No name is repeated in lower case exactly when the forms are distinct and new. -/
theorem firstRepeated?_eq_none_iff (seen names : List String) :
    firstRepeated? seen names = none ↔
      (names.map lowered).Nodup ∧ ∀ name ∈ names, lowered name ∉ seen := by
  induction names generalizing seen with
  | nil => simp [firstRepeated?]
  | cons name names ih =>
    by_cases repeated : lowered name ∈ seen
    · simp only [firstRepeated?, List.contains_iff_mem, repeated, if_true, reduceCtorEq,
        false_iff, not_and]
      intro _ fresh
      exact fresh name List.mem_cons_self repeated
    · simp only [firstRepeated?, List.contains_iff_mem, repeated, if_false, ih, List.map_cons,
        List.nodup_cons, List.mem_cons, not_or]
      constructor
      · rintro ⟨distinct, fresh⟩
        refine ⟨⟨fun member => ?_, distinct⟩, ?_⟩
        · obtain ⟨other, later, same⟩ := List.mem_map.mp member
          exact (fresh other later).1 same
        · rintro other (rfl | later)
          · exact repeated
          · exact (fresh other later).2
      · rintro ⟨⟨new, distinct⟩, fresh⟩
        refine ⟨distinct, fun other later => ⟨fun same => new ?_, fresh other (.inr later)⟩⟩
        exact List.mem_map.mpr ⟨other, later, same⟩

/-- **The name that is reported as repeated** is the first whose form was seen. -/
theorem firstRepeated?_eq_some_iff {seen names : List String} {name : String} :
    firstRepeated? seen names = some name ↔ ∃ earlier later, names = earlier ++ name :: later ∧
      (lowered name ∈ seen ∨ lowered name ∈ earlier.map lowered) ∧
      firstRepeated? seen earlier = none := by
  induction names generalizing seen with
  | nil => simp [firstRepeated?]
  | cons first names ih =>
    by_cases repeated : lowered first ∈ seen
    · simp only [firstRepeated?, List.contains_iff_mem, repeated, if_true, Option.some.injEq]
      constructor
      · rintro rfl
        exact ⟨[], names, rfl, .inl repeated, rfl⟩
      · rintro ⟨earlier, later, split, _, none⟩
        cases earlier with
        | nil => exact (List.cons.inj split).1
        | cons other earlier =>
          obtain ⟨rfl, _⟩ := List.cons.inj split
          simp [firstRepeated?, repeated] at none
    · simp only [firstRepeated?, List.contains_iff_mem, repeated, if_false, ih]
      constructor
      · rintro ⟨earlier, later, rfl, occurs, none⟩
        refine ⟨first :: earlier, later, rfl, ?_, ?_⟩
        · simpa only [List.map_cons, List.mem_cons, or_left_comm, or_assoc] using occurs
        · simpa only [firstRepeated?, List.contains_iff_mem, repeated, if_false] using none
      · rintro ⟨earlier, later, split, occurs, none⟩
        cases earlier with
        | nil =>
          obtain ⟨rfl, _⟩ := List.cons.inj split
          simp [repeated] at occurs
        | cons other earlier =>
          obtain ⟨rfl, rfl⟩ := List.cons.inj split
          refine ⟨earlier, later, rfl, ?_, ?_⟩
          · simpa only [List.map_cons, List.mem_cons, or_left_comm, or_assoc] using occurs
          · simpa only [firstRepeated?, List.contains_iff_mem, repeated, if_false] using none

/-- The locator names stay apart exactly when none is repeated. -/
theorem firstRepeated?_names_eq_none_iff (p : Plan) :
    firstRepeated? [] (p.locators.map Locator.name) = none ↔
      (p.locators.map fun l => lowered l.name).Nodup := by
  rw [firstRepeated?_eq_none_iff, List.map_map]
  simp only [List.not_mem_nil, not_false_eq_true, implies_true, and_true]
  rfl

/-- The locator that is reported as a duplicate is the first whose name occurred before. -/
theorem firstRepeated?_names_eq_some_iff {p : Plan} {name : String} :
    firstRepeated? [] (p.locators.map Locator.name) = some name ↔
      ∃ earlier l later, p.locators = earlier ++ l :: later ∧ l.name = name ∧
        (lowered l.name ∈ earlier.map fun k => lowered k.name) ∧
        (earlier.map fun k => lowered k.name).Nodup := by
  have forms : ∀ ls : List Locator,
      (ls.map Locator.name).map lowered = ls.map fun k => lowered k.name := by
    intro ls
    rw [List.map_map]
    rfl
  simp only [firstRepeated?_eq_some_iff, firstRepeated?_eq_none_iff, List.not_mem_nil, false_or,
    not_false_eq_true, implies_true, and_true]
  constructor
  · rintro ⟨earlier, later, split, occurs, apart⟩
    obtain ⟨front, back, locators, rfl, behind⟩ := List.map_eq_append_iff.mp split
    obtain ⟨l, back, rfl, rfl, rfl⟩ := List.map_eq_cons_iff.mp behind
    rw [forms] at occurs apart
    exact ⟨front, l, back, locators, rfl, occurs, apart⟩
  · rintro ⟨earlier, l, later, locators, rfl, occurs, apart⟩
    refine ⟨earlier.map Locator.name, later.map Locator.name, ?_, ?_, ?_⟩
    · rw [locators, List.map_append, List.map_cons]
    · rwa [forms]
    · rwa [forms]

/-! ## Unknown locators -/

/-- A name is found exactly when it is that of a locator. -/
theorem isSome_locator?_iff {p : Plan} {name : String} :
    (p.locator? name).isSome = true ↔ ∃ l ∈ p.locators, l.name = name := by
  simp only [locator?, List.find?_isSome, beq_iff_eq]

/-- No locator is unknown exactly when every step's locator is one of the plan's. -/
theorem firstUnknown?_eq_none_iff (p : Plan) :
    p.firstUnknown? = none ↔
      ∀ s ∈ p.steps, ∀ name, s.locator = some name → ∃ l ∈ p.locators, l.name = name := by
  simp only [firstUnknown?, List.findSome?_eq_none_iff, Option.bind_eq_none_iff,
    isSome_locator?_iff, ite_eq_left_iff, reduceCtorEq, imp_false, Classical.not_not]

/-- The step that is reported is the first whose locator is unknown. -/
theorem firstUnknown?_eq_some_iff {p : Plan} {s : Step} {name : String} :
    p.firstUnknown? = some (s, name) ↔ ∃ earlier later, p.steps = earlier ++ s :: later ∧
      s.locator = some name ∧ (∀ l ∈ p.locators, l.name ≠ name) ∧
      ∀ t ∈ earlier, ∀ other, t.locator = some other → ∃ l ∈ p.locators, l.name = other := by
  have unknown (other : String) :
      ¬ (p.locator? other).isSome = true ↔ ∀ l ∈ p.locators, l.name ≠ other := by
    simp only [isSome_locator?_iff, not_exists, not_and, ne_eq]
  simp only [firstUnknown?, List.findSome?_eq_some_iff, Option.bind_eq_some_iff,
    Option.bind_eq_none_iff, Option.ite_none_left_eq_some, Option.some.injEq, Prod.mk.injEq,
    unknown, ite_eq_left_iff, reduceCtorEq, imp_false]
  constructor
  · rintro ⟨earlier, t, later, split, ⟨other, acts, missing, rfl, rfl⟩, before⟩
    refine ⟨earlier, later, split, acts, missing, fun t listed other own => ?_⟩
    exact isSome_locator?_iff.mp (Classical.byContradiction fun absent =>
      before t listed other own ((unknown other).mp absent))
  · rintro ⟨earlier, later, split, acts, missing, known⟩
    refine ⟨earlier, s, later, split, ⟨name, acts, missing, rfl, rfl⟩, ?_⟩
    intro t listed other own absent
    obtain ⟨l, member, same⟩ := known t listed other own
    exact absent l member same

/-! ## The check -/

/-- In a plan that opens with a `Given`, there is one `Given` exactly when no later step is one. -/
theorem givenCount_eq_one_iff {p : Plan} {first : Step} {rest : List Step}
    (split : p.steps = first :: rest) (given : first.keyword = .given) :
    p.givenCount = 1 ↔ ∀ s ∈ rest, s.keyword ≠ .given := by
  rw [givenCount, split, List.countP_cons_of_pos (by simp [given])]
  simp only [Nat.add_eq_right, List.countP_eq_zero, beq_iff_eq, ne_eq]

section

variable {p : Plan} {first : Step} {rest : List Step}

theorem fault?_of_unusable (unusable : ¬ p.Usable) :
    p.fault? = some (.unusableFeature p.feature) := by
  rw [usable_iff, Bool.not_eq_false] at unusable
  rw [fault?, if_pos unusable]

theorem fault?_of_nil (usable : p.Usable) (none : p.steps = []) : p.fault? = some .noSteps := by
  simp only [fault?, usable_iff.mp usable, Bool.false_eq_true, if_false, none]

theorem fault?_of_other (usable : p.Usable) (steps : p.steps = first :: rest)
    (other : first.keyword ≠ .given) : p.fault? = some (.firstNotGiven first) := by
  simp only [fault?, usable_iff.mp usable, Bool.false_eq_true, if_false, steps,
    bne_iff_ne, ne_eq, other, not_false_eq_true, if_true]

theorem fault?_of_again (usable : p.Usable) (steps : p.steps = first :: rest)
    (given : first.keyword = .given) (again : ∃ s ∈ rest, s.keyword = .given) :
    p.fault? = some (.severalGivens p.givenCount) := by
  have several : p.givenCount ≠ 1 := by
    intro sole
    obtain ⟨s, listed, second⟩ := again
    exact (givenCount_eq_one_iff steps given).mp sole s listed second
  simp only [fault?, usable_iff.mp usable, Bool.false_eq_true, if_false, steps, given,
    bne_self_eq_false, bne_iff_ne, ne_eq, several, not_false_eq_true, if_true]

theorem fault?_of_opened (opened : p.Opened) :
    p.fault? = ((firstRepeated? [] (p.locators.map Locator.name)).map .duplicateLocator).or
      (p.firstUnknown?.map fun r => .unknownLocator r.1 r.2) := by
  obtain ⟨first, rest, steps, given, others⟩ := opened.opening
  have sole := (givenCount_eq_one_iff steps given).mpr others
  simp only [fault?, usable_iff.mp opened.usable, Bool.false_eq_true, if_false, steps,
    given, bne_self_eq_false, sole]
  cases firstRepeated? [] (p.locators.map Locator.name) with
  | some name => rfl
  | none => rfl

end

/-- The first fault is found. -/
theorem FirstFault.fault?_eq {p : Plan} {fault : PlanFault} (broken : p.FirstFault fault) :
    p.fault? = some fault := by
  cases broken with
  | unusableFeature unusable => exact fault?_of_unusable unusable
  | noSteps usable none => exact fault?_of_nil usable none
  | firstNotGiven usable steps other => exact fault?_of_other usable steps other
  | severalGivens usable steps given again => exact fault?_of_again usable steps given again
  | @duplicateLocator opened l earlier later split repeated apart =>
    have found : firstRepeated? [] (p.locators.map Locator.name) = some l.name :=
      firstRepeated?_names_eq_some_iff.mpr ⟨earlier, l, later, split, rfl, repeated, apart⟩
    rw [fault?_of_opened opened, found]
    rfl
  | unknownLocator opened apart split acts unknown known =>
    have found := firstUnknown?_eq_some_iff.mpr ⟨_, _, split, acts, unknown, known⟩
    rw [fault?_of_opened opened, (firstRepeated?_names_eq_none_iff p).mpr apart, found]
    rfl

/-- A plan opens well, or its first fault is in its name or at its `Given` steps. -/
theorem opened_or_firstFault (p : Plan) : p.Opened ∨ ∃ fault, p.FirstFault fault := by
  by_cases usable : p.Usable
  · cases steps : p.steps with
    | nil => exact .inr ⟨_, .noSteps usable steps⟩
    | cons first rest =>
      by_cases given : first.keyword = .given
      · by_cases again : ∃ s ∈ rest, s.keyword = .given
        · exact .inr ⟨_, .severalGivens usable steps given again⟩
        · refine .inl ⟨usable, first, rest, steps, given, fun s listed second => ?_⟩
          exact again ⟨s, listed, second⟩
      · exact .inr ⟨_, .firstNotGiven usable steps given⟩
  · exact .inr ⟨_, .unusableFeature usable⟩

/-- Where something is found, there is a first fault. -/
theorem exists_firstFault {p : Plan} (found : p.fault? ≠ none) : ∃ fault, p.FirstFault fault := by
  obtain opened | broken := p.opened_or_firstFault
  · rw [fault?_of_opened opened] at found
    cases repeated : firstRepeated? [] (p.locators.map Locator.name) with
    | some name =>
      obtain ⟨earlier, l, later, split, _, occurs, apart⟩ :=
        firstRepeated?_names_eq_some_iff.mp repeated
      exact ⟨_, .duplicateLocator opened split occurs apart⟩
    | none =>
      have apart := (firstRepeated?_names_eq_none_iff p).mp repeated
      cases unknown : p.firstUnknown? with
      | some step =>
        obtain ⟨earlier, later, split, acts, missing, known⟩ :=
          firstUnknown?_eq_some_iff.mp unknown
        exact ⟨_, .unknownLocator opened apart split acts missing known⟩
      | none =>
        rw [repeated, unknown] at found
        exact absurd rfl found
  · exact broken

/-- **The check finds the first fault,** and nothing else. -/
theorem fault?_eq_some_iff {p : Plan} {fault : PlanFault} :
    p.fault? = some fault ↔ p.FirstFault fault := by
  constructor
  · intro found
    have faulty : p.fault? ≠ none := by
      rw [found]
      exact Option.some_ne_none fault
    obtain ⟨first, broken⟩ := exists_firstFault faulty
    obtain rfl := Option.some.inj (found.symm.trans broken.fault?_eq)
    exact broken
  · exact FirstFault.fault?_eq

/-- **The check finds nothing exactly if all is in order.** -/
theorem fault?_eq_none {p : Plan} :
    p.fault? = none ↔ p.Opened ∧ (p.locators.map fun l => lowered l.name).Nodup ∧
      ∀ s ∈ p.steps, ∀ name, s.locator = some name → ∃ l ∈ p.locators, l.name = name := by
  have parts : p.Opened → (p.fault? = none ↔
      (p.locators.map fun l => lowered l.name).Nodup ∧
      ∀ s ∈ p.steps, ∀ name, s.locator = some name → ∃ l ∈ p.locators, l.name = name) := by
    intro opened
    rw [fault?_of_opened opened, Option.or_eq_none_iff, Option.map_eq_none_iff,
      Option.map_eq_none_iff, firstRepeated?_names_eq_none_iff, firstUnknown?_eq_none_iff]
  constructor
  · intro none
    obtain opened | ⟨fault, broken⟩ := p.opened_or_firstFault
    · exact ⟨opened, (parts opened).mp none⟩
    · rw [broken.fault?_eq] at none
      cases none
  · rintro ⟨opened, sound⟩
    exact (parts opened).mpr sound

end TestPlanner.Plan
