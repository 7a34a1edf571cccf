import TestPlanner.Screenshot.Field
import TestPlanner.Registry
import TestPlanner.Selector

/-!
# Plans from detected fields

Every button and every text field becomes one step after the opening one, in order: a click on the
button of that label, or test data typed into the field of that label. Fields of other types are
passed over, and without a button or text field there is no plan.

A click is a `When` as the first step after the opening one and an `And` later. Typing is always a
`When`.
-/

set_option autoImplicit false

namespace TestPlanner.Screenshot

/-- The value typed into every text field. -/
def fillValue : String := "test-data"

/-- A field that leads to a step. -/
inductive Target where
  | button (label : String)
  | text (label : String)
  deriving DecidableEq, Repr

/-- The target of a field. -/
def target? (f : DetectedField) : Option Target :=
  match f.kind with
  | .button => some (.button f.label)
  | .text => some (.text f.label)
  | .other => none

namespace Target

/-- The label of a target. -/
def label : Target → String
  | .button l => l
  | .text l => l

/-- The locator expression of a target. -/
def selector : Target → String
  | .button l => Selector.role "button" l
  | .text l => Selector.label l

/-- The step for a target, given its locator's name and whether it is the first one. -/
def step (first : Bool) (locator : String) : Target → Step
  | .button l =>
    .click (if first then .when else .and) ("I click the '" ++ l ++ "' button") locator
  | .text l =>
    .fill .when ("I fill the '" ++ l ++ "' field with '" ++ fillValue ++ "'") locator fillValue

end Target

/-- The steps for targets, and the registry after them. -/
def targetSteps (first : Bool) (r : Registry) : List Target → List Step × Registry
  | [] => ([], r)
  | t :: ts =>
    let (name, r) := r.resolve t.selector t.label
    let (steps, r) := targetSteps false r ts
    (t.step first name :: steps, r)

/-- The plan for the fields detected in an image. -/
def plan? (feature fileName : String) (fields : List DetectedField) : Option Plan :=
  match fields.filterMap target? with
  | [] => none
  | targets =>
    let (steps, r) := targetSteps true .empty targets
    some { Plan.named feature ("A scenario from image " ++ fileName) with
      locators := r.locators
      steps := .navigate "I am on the application" none :: steps }

end TestPlanner.Screenshot
