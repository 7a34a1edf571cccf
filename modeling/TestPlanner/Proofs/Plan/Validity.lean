import TestPlanner.Proofs.Plan.FirstFault
import TestPlanner.Synthesis.Report

/-!
# What the check of a plan accepts

The check looks for the first broken condition. Here the conditions are said on their own
(`Plan.WellFormed`): the plan opens with a `Given` and has no other, its locator names stay apart
in lower case, and every locator that a step names is one of the plan's. The check finds nothing
exactly when these hold and the feature name is usable (`fault?_eq_none_iff`), and else it refuses
the plan with its first fault (`check_exact`). For a well-formed plan, then, a run that is handed
the plan takes it or has nothing to do; it never refuses it (`Plan.WellFormed.accepted`).
-/

set_option autoImplicit false

namespace TestPlanner

open Text

namespace Plan

/-- The conditions on a plan that do not concern its feature name. -/
structure WellFormed (p : Plan) : Prop where
  /-- The first step is a `Given`, and no other step is. -/
  opening : ∃ first rest, p.steps = first :: rest ∧ first.keyword = .given ∧
    ∀ s ∈ rest, s.keyword ≠ .given
  /-- No two locator names agree in lower case. -/
  apart : (p.locators.map fun l => lowered l.name).Nodup
  /-- A locator that a step names is one of the plan's. -/
  resolved : ∀ s ∈ p.steps, ∀ name, s.locator = some name → ∃ l ∈ p.locators, l.name = name

/-- **The check finds nothing exactly when the feature name is usable and the plan is
well-formed.** -/
theorem fault?_eq_none_iff (p : Plan) :
    p.fault? = none ↔ p.safeName.isEmpty = false ∧ p.WellFormed := by
  rw [fault?_eq_none, ← usable_iff]
  constructor
  · rintro ⟨⟨usable, opening⟩, apart, resolved⟩
    exact ⟨usable, opening, apart, resolved⟩
  · rintro ⟨usable, opening, apart, resolved⟩
    exact ⟨⟨usable, opening⟩, apart, resolved⟩

/-- The check passes exactly when it finds nothing. -/
theorem check_eq_ok_iff (p : Plan) : p.check = .ok () ↔ p.fault? = none := by
  unfold check
  cases p.fault? with
  | none => simp only
  | some fault => simp only [reduceCtorEq]

namespace WellFormed

variable {p : Plan}

/-- A well-formed plan passes the check exactly when its feature name is usable. -/
theorem check_eq_ok_iff (sound : p.WellFormed) :
    p.check = .ok () ↔ p.safeName.isEmpty = false := by
  rw [Plan.check_eq_ok_iff, fault?_eq_none_iff]
  exact and_iff_left sound

/-- **A run never refuses a well-formed plan:** it takes it, or its feature name is unusable and
there is nothing to do. -/
theorem accepted (sound : p.WellFormed) :
    Synthesis.accepted (.ok (some p)) = .ok (if p.safeName.isEmpty then none else some p) := by
  unfold Synthesis.accepted
  by_cases unusable : p.safeName.isEmpty = true
  · simp only [unusable, if_true]
  · simp only [Bool.not_eq_true] at unusable
    simp only [sound.check_eq_ok_iff.mpr unusable, unusable, Bool.false_eq_true, if_false]

end WellFormed

/-- **The check is exact.** It passes a plan exactly if its feature name has a letter or digit, its
first step is a `Given` and no other is, its locator names stay apart in lower case, and each
locator that a step names is one of the plan's. Otherwise it refuses the plan with the first fault.
-/
theorem check_exact (p : Plan) :
    (p.check = .ok () ↔ p.Usable ∧ p.WellFormed) ∧
    ∀ failure, p.check = .error failure ↔
      ∃ fault, p.FirstFault fault ∧ failure = .invalid (.plan fault) := by
  refine ⟨?passes, fun failure => ?refuses⟩
  case passes => rw [check_eq_ok_iff, fault?_eq_none_iff, usable_iff]
  case refuses =>
    simp only [← fault?_eq_some_iff]
    unfold check
    cases p.fault? with
    | some fault => simp only [Except.error.injEq, Option.some.injEq, exists_eq_left', eq_comm]
    | none => simp only [reduceCtorEq, false_and, exists_false]

end Plan

end TestPlanner
