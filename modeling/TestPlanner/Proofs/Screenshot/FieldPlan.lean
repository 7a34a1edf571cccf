import TestPlanner.Proofs.Plan.OfRegistry
import TestPlanner.Screenshot.FieldPlan

/-!
# Plans from detected fields

The steps of a screenshot's plan are those of its targets, in order, each on the locator that the
registry has for it at the end (`targetSteps_fst`). The registry is that of a run of requests, one
for each target, so the plan is well-formed (`wellFormed_of_plan?`).
-/

set_option autoImplicit false

namespace TestPlanner.Screenshot

open Registry (Query)

/-- The request for the name of a target. -/
def Target.query (t : Target) : Query := ⟨t.selector, t.label⟩

/-- A step for a target on the locator that a registry has for it. -/
def Target.On (r : Registry) (t : Target) (s : Step) : Prop :=
  ∃ first name, r.get? t.selector = some name ∧ s = t.step first name

@[simp] theorem Target.locator_step (first : Bool) (name : String) (t : Target) :
    (t.step first name).locator = some name := by
  cases t <;> rfl

theorem Target.keyword_step (first : Bool) (name : String) (t : Target) :
    (t.step first name).keyword ≠ .given := by
  intro given
  cases t with
  | button label => cases first <;> cases given
  | text label => cases given

/-- The registry after the steps of targets is that of their requests. -/
theorem targetSteps_snd (first : Bool) (r : Registry) (targets : List Target) :
    (targetSteps first r targets).2 = r.after (targets.map Target.query) := by
  induction targets generalizing first r with
  | nil => rfl
  | cons t targets ih => exact ih false _

/-- **Every target has its step, on the locator of its selector.** -/
theorem targetSteps_fst (first : Bool) (r : Registry) (targets : List Target) :
    List.Forall₂ (Target.On (targetSteps first r targets).2) targets
      (targetSteps first r targets).1 := by
  induction targets generalizing first r with
  | nil => exact .nil
  | cons t targets ih =>
    refine .cons ⟨first, _, ?_, rfl⟩ (ih false _)
    rw [targetSteps]
    simp only [targetSteps_snd]
    exact Registry.get?_after_of_get? _ (r.get?_resolve _ _)

/-- Every step is that of a target. -/
theorem exists_target {r : Registry} {targets : List Target} {steps : List Step}
    (each : List.Forall₂ (Target.On r) targets steps) :
    ∀ s ∈ steps, ∃ t ∈ targets, t.On r s := by
  induction each with
  | nil => exact fun _ member => absurd member List.not_mem_nil
  | cons on _ ih =>
    intro s member
    rcases List.mem_cons.mp member with rfl | later
    · exact ⟨_, List.mem_cons_self, on⟩
    · obtain ⟨t, listed, on'⟩ := ih s later
      exact ⟨t, List.mem_cons_of_mem _ listed, on'⟩

/-- The plan for fields, if there is one, and the targets behind it. -/
theorem plan?_eq_some_iff {feature fileName : String} {fields : List DetectedField} {p : Plan} :
    plan? feature fileName fields = some p ↔
      fields.filterMap target? ≠ [] ∧
      p = { Plan.named feature ("A scenario from image " ++ fileName) with
        locators := (targetSteps true .empty (fields.filterMap target?)).2.locators
        steps := .navigate "I am on the application" none ::
          (targetSteps true .empty (fields.filterMap target?)).1 } := by
  unfold plan?
  cases fields.filterMap target? with
  | nil => simp
  | cons t targets =>
    simp only [Option.some.injEq, ne_eq, reduceCtorEq, not_false_eq_true, true_and]
    exact eq_comm

/-- **A plan for detected fields is well-formed.** -/
theorem wellFormed_of_plan? {feature fileName : String} {fields : List DetectedField} {p : Plan}
    (made : plan? feature fileName fields = some p) : p.WellFormed := by
  obtain ⟨_, rfl⟩ := plan?_eq_some_iff.mp made
  have each := targetSteps_fst true .empty (fields.filterMap target?)
  have coherent : (targetSteps true .empty (fields.filterMap target?)).2.Coherent := by
    rw [targetSteps_snd]
    exact Registry.coherent_empty.after _
  refine .of_registry coherent rfl rfl rfl rfl fun s member => ?_
  obtain ⟨t, _, first, name, found, rfl⟩ := exists_target each s member
  exact ⟨t.keyword_step first name, t.selector, name, found, t.locator_step first name⟩

end TestPlanner.Screenshot
