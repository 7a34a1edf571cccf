import TestPlanner.Proofs.Artifact.Literals
import TestPlanner.Proofs.Screenshot.FieldPlan

/-!
# Fields and their steps

The fields that act are the buttons and the text fields. They are the targets of a plan, in order
(`acting_eq`), so the other fields do not count at all. Behind the opening step, the plan has one
step for each of them, at the same place (`getElem?_targetSteps`), and that step acts on the locator
of the field itself.

**Locators.** The locator expression of a field tells its type and its label
(`Target.selector_injective`), and the registry tells expressions apart by their names. So two steps
act on one locator exactly if their fields are alike, and the locators stand in the order in which
the steps first need them (`fields_followed`).
-/

set_option autoImplicit false

namespace TestPlanner.Screenshot

/-! ## Fields that act -/

/-- The fields that lead to a step. -/
def acting (fields : List DetectedField) : List DetectedField :=
  fields.filter fun f => f.kind != .other

/-- The field of a target. -/
def Target.field : Target → DetectedField
  | .button label => ⟨label, .button⟩
  | .text label => ⟨label, .text⟩

theorem Target.field_injective : Function.Injective Target.field := by
  intro t u same
  cases t with
  | button label =>
    cases u with
    | button label' => rw [(DetectedField.mk.inj same).1]
    | text label' => cases (DetectedField.mk.inj same).2
  | text label =>
    cases u with
    | button label' => cases (DetectedField.mk.inj same).2
    | text label' => rw [(DetectedField.mk.inj same).1]

/-- **The acting fields are those of the targets.** -/
theorem acting_eq (fields : List DetectedField) :
    acting fields = (fields.filterMap target?).map Target.field := by
  rw [acting, ← List.filterMap_eq_filter, List.map_filterMap]
  refine List.filterMap_congr fun f _ => ?_
  obtain ⟨label, kind⟩ := f
  cases kind <;> rfl

/-- Fields that act alike have the same targets. -/
theorem filterMap_target?_congr {fields more : List DetectedField}
    (same : acting more = acting fields) : more.filterMap target? = fields.filterMap target? := by
  rw [acting_eq, acting_eq] at same
  exact List.map_injective_iff.mpr Target.field_injective same

/-- The acting field at a place, and the target there. -/
theorem exists_target_of_acting {fields : List DetectedField} {i : Nat} {f : DetectedField}
    (found : (acting fields)[i]? = some f) :
    ∃ t : Target, (fields.filterMap target?)[i]? = some t ∧ t.field = f := by
  rw [acting_eq, List.getElem?_map, Option.map_eq_some_iff] at found
  exact found

/-! ## Locators -/

/-- What the locator expression of a target looks for. -/
def Target.expression : Target → LocatorExpression
  | .button label => .byRole "button" label
  | .text label => .byLabel label

theorem Target.selector_eq (t : Target) : t.selector = t.expression.build := by
  cases t <;> rfl

theorem Target.expression_injective : Function.Injective Target.expression := by
  intro t u same
  cases t with
  | button label =>
    cases u with
    | button label' => rw [(LocatorExpression.byRole.inj same).2]
    | text label' => cases same
  | text label =>
    cases u with
    | button label' => cases same
    | text label' => rw [LocatorExpression.byLabel.inj same]

/-- **The locator expression of a target tells the target.** -/
theorem Target.selector_injective : Function.Injective Target.selector := by
  intro t u same
  rw [Target.selector_eq, Target.selector_eq] at same
  exact Target.expression_injective (LocatorExpression.build_injective same)

theorem targetSteps_cons (first : Bool) (r : Registry) (t : Target) (targets : List Target) :
    targetSteps first r (t :: targets) =
      (t.step first (r.resolve t.selector t.label).1 ::
        (targetSteps false (r.resolve t.selector t.label).2 targets).1,
      (targetSteps false (r.resolve t.selector t.label).2 targets).2) := rfl

/-- **Every target has its step, at its own place,** on the locator that the registry has for it at
the end. -/
theorem getElem?_targetSteps (first : Bool) (r : Registry) {targets : List Target} {i : Nat}
    {t : Target} (found : targets[i]? = some t) :
    ∃ name, (targetSteps first r targets).2.get? t.selector = some name ∧
      (targetSteps first r targets).1[i]? = some (t.step (first && i == 0) name) := by
  induction targets generalizing first r i with
  | nil => cases found
  | cons u targets ih =>
    rw [targetSteps_cons]
    cases i with
    | zero =>
      obtain rfl := Option.some.inj found
      refine ⟨_, ?_, by rw [beq_self_eq_true, Bool.and_true]; rfl⟩
      rw [targetSteps_snd]
      exact Registry.get?_after_of_get? _ (r.get?_resolve _ _)
    | succ i =>
      obtain ⟨name, named, step⟩ := ih false (r.resolve u.selector u.label).2 found
      exact ⟨name, named, by simpa using step⟩

theorem length_targetSteps (first : Bool) (r : Registry) (targets : List Target) :
    (targetSteps first r targets).1.length = targets.length := by
  induction targets generalizing first r with
  | nil => rfl
  | cons t targets ih => rw [targetSteps_cons, List.length_cons, ih, List.length_cons]

/-- The steps act on the locators that their targets asked for. -/
theorem filterMap_locator_targetSteps (first : Bool) (r : Registry) (targets : List Target) :
    (targetSteps first r targets).1.filterMap Step.locator =
      r.names (targets.map Target.query) := by
  induction targets generalizing first r with
  | nil => rfl
  | cons t targets ih =>
    rw [targetSteps_cons, List.filterMap_cons_some (t.locator_step first _), ih, List.map_cons,
      Registry.names]
    rfl

/-! ## The plan -/

/-- The step for a field: a click on the button of its label, a `When` only as the first step, or
test data typed into the field of its label, always a `When`. -/
inductive Follows (p : Plan) (first : Bool) : DetectedField → Step → Prop where
  | click {label name : String} {l : Locator} (located : p.locator? name = some l)
      (selector : l.selector = Selector.role "button" label) :
      Follows p first ⟨label, .button⟩ (.click (if first then .when else .and)
        ("I click the '" ++ label ++ "' button") name)
  | fill {label name : String} {l : Locator} (located : p.locator? name = some l)
      (selector : l.selector = Selector.label label) :
      Follows p first ⟨label, .text⟩ (.fill .when
        ("I fill the '" ++ label ++ "' field with '" ++ "test-data" ++ "'") name "test-data")

/-- A plan that follows the acting fields of an image, one to one. -/
structure Mirrors (feature fileName : String) (fields : List DetectedField) (p : Plan) : Prop where
  feature_eq : p.feature = feature
  scenario_eq : p.scenario = "A scenario from image " ++ fileName
  /-- The plan opens by going to the application. -/
  opening : p.steps.head? = some (.navigate "I am on the application" none)
  /-- There is one further step for each acting field, -/
  counted : p.steps.length = (acting fields).length + 1
  /-- at the place of the field, for the field itself. -/
  each : ∀ i f, (acting fields)[i]? = some f →
    ∃ s, p.steps[i + 1]? = some s ∧ Follows p (i == 0) f s
  /-- Two fields share a locator exactly if they have the same type and label. -/
  shared : ∀ i f j g, (acting fields)[i]? = some f → (acting fields)[j]? = some g →
    (p.steps[i + 1]?.bind Step.locator = p.steps[j + 1]?.bind Step.locator ↔ f = g)
  /-- The locators are those of the steps, each once, in the order of first use. -/
  listed : p.locators.map Locator.name = (p.steps.filterMap Step.locator).eraseDups

theorem Target.follows_step {p : Plan} {t : Target} {name : String} {l : Locator}
    (located : p.locator? name = some l) (selector : l.selector = t.selector) (first : Bool) :
    Follows p first t.field (t.step first name) := by
  cases t with
  | button label => exact .click located selector
  | text label => exact .fill located selector

/-- **A plan for detected fields follows the acting ones.** -/
theorem mirrors_of_plan? {feature fileName : String} {fields : List DetectedField} {p : Plan}
    (made : plan? feature fileName fields = some p) : Mirrors feature fileName fields p := by
  obtain ⟨_, rfl⟩ := plan?_eq_some_iff.mp made
  have coherent : (targetSteps true .empty (fields.filterMap target?)).2.Coherent := by
    rw [targetSteps_snd]
    exact Registry.coherent_empty.after _
  refine ⟨rfl, rfl, rfl, ?counted, ?each, ?shared, ?listed⟩
  case counted =>
    rw [List.length_cons, length_targetSteps, acting_eq, List.length_map]
  case each =>
    intro i f found
    obtain ⟨t, target, rfl⟩ := exists_target_of_acting found
    obtain ⟨name, named, step⟩ := getElem?_targetSteps true .empty target
    exact ⟨_, step, t.follows_step (Plan.locator?_of_registry coherent rfl named) rfl _⟩
  case shared =>
    intro i f j g foundF foundG
    obtain ⟨t, targetF, rfl⟩ := exists_target_of_acting foundF
    obtain ⟨u, targetG, rfl⟩ := exists_target_of_acting foundG
    obtain ⟨name, namedF, stepF⟩ := getElem?_targetSteps true .empty targetF
    obtain ⟨name', namedG, stepG⟩ := getElem?_targetSteps true .empty targetG
    simp only [List.getElem?_cons_succ, stepF, stepG, Option.bind_some, Target.locator_step,
      Option.some.injEq]
    constructor
    · rintro rfl
      have same := coherent.selector_eq namedF namedG rfl
      rw [Target.selector_injective same]
    · intro same
      obtain rfl := Target.field_injective same
      exact Option.some.inj (namedF.symm.trans namedG)
  case listed =>
    have names := Registry.names_after_empty ((fields.filterMap target?).map Target.query)
    rw [← targetSteps_snd true, ← filterMap_locator_targetSteps true] at names
    rw [List.filterMap_cons_none rfl, ← names, Registry.locators, List.map_map]
    rfl

/-- There is no plan exactly if no field acts. -/
theorem plan?_eq_none_iff {feature fileName : String} {fields : List DetectedField} :
    plan? feature fileName fields = none ↔ ∀ f ∈ fields, f.kind = .other := by
  have idle : fields.filterMap target? = [] ↔ ∀ f ∈ fields, f.kind = .other := by
    rw [List.filterMap_eq_nil_iff]
    refine forall₂_congr fun f _ => ?_
    obtain ⟨label, kind⟩ := f
    cases kind <;> simp [target?]
  rw [← idle]
  unfold plan?
  cases fields.filterMap target? with
  | nil => simp only
  | cons t targets => simp only [reduceCtorEq]

/-- **Detected fields are followed one to one.**

- There is no plan exactly if no field is a button or a text field.
- A plan follows the buttons and text fields: one step for each, in order, on the locator of the
  field itself, and one locator for fields that have the same type and label.
- Lists that differ in fields of other types only give the same plan. -/
theorem fields_followed (feature fileName : String) (fields : List DetectedField) :
    (plan? feature fileName fields = none ↔ ∀ f ∈ fields, f.kind = .other) ∧
    (∀ p, plan? feature fileName fields = some p → Mirrors feature fileName fields p) ∧
    ∀ more, acting more = acting fields →
      plan? feature fileName more = plan? feature fileName fields := by
  refine ⟨plan?_eq_none_iff, fun _ made => mirrors_of_plan? made, fun more same => ?_⟩
  simp only [plan?, filterMap_target?_congr same]

/-- A button that is met twice, and a text field whose label leads to the same name. -/
theorem fields_followed_colliding :
    let fields : List DetectedField :=
      [⟨"Sign in", .button⟩, ⟨"Logo", .other⟩, ⟨"sign-in", .text⟩, ⟨"Sign in", .button⟩]
    ∃ p, plan? "Login" "login.png" fields = some p ∧
      p.locators.map Locator.name = ["signin", "signin2"] ∧
      p.steps.map Step.keyword = [.given, .when, .when, .and] ∧
      Mirrors "Login" "login.png" fields p ∧
      plan? "Login" "login.png" (acting fields) = some p := by
  intro fields
  obtain ⟨_, mirrored, unchanged⟩ := fields_followed "Login" "login.png" fields
  have names : (plan? "Login" "login.png" fields).map (fun p => p.locators.map Locator.name) =
      some ["signin", "signin2"] := by decide +kernel
  have keywords : (plan? "Login" "login.png" fields).map (fun p => p.steps.map Step.keyword) =
      some [.given, .when, .when, .and] := by decide +kernel
  obtain ⟨p, made, named⟩ := Option.map_eq_some_iff.mp names
  rw [made, Option.map_some, Option.some.injEq] at keywords
  have sole : acting (acting fields) = acting fields := by decide
  exact ⟨p, made, named, keywords, mirrored p made, (unchanged _ sole).trans made⟩

end TestPlanner.Screenshot
