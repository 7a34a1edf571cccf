import TestPlanner.Artifact.StepView
import TestPlanner.Artifact.Kind

/-!
# The step bindings

One binding per distinct pattern, in order of first occurrence. The binding of a navigating step
creates the page object and opens the address if there is one; a click or fill acts on its locator;
a step without an action is pending.
-/

set_option autoImplicit false

namespace TestPlanner

/-- The views whose pattern did not occur before, those in `seen` included. -/
def firstViews (seen : List String) : List StepView → List StepView
  | [] => []
  | v :: views =>
    if seen.contains v.pattern then firstViews seen views
    else v :: firstViews (v.pattern :: seen) views

/-- The statements of a binding. -/
def StepView.bindingBody (names : ArtifactNames) (v : StepView) : List String :=
  let page := "this." ++ names.pageInstance
  match v.action, v.locator with
  | some .navigate, _ =>
    ("  " ++ page ++ " = new " ++ names.pageClass ++ "(this.page);") ::
      (match v.value with
        | some url => ["  await " ++ page ++ ".goto('" ++ url ++ "');"]
        | none => [])
  | some .click, some locator => ["  await " ++ page ++ "." ++ locator ++ ".click();"]
  | some .fill, some locator =>
    ["  await " ++ page ++ "." ++ locator ++ ".fill('" ++ v.value.getD "" ++ "');"]
  | _, _ => ["  return 'pending';"]

/-- The lines of a binding, with an empty line in front. -/
def StepView.bindingLines (names : ArtifactNames) (v : StepView) : List String :=
  ["", v.binding.text ++ "('" ++ v.pattern ++ "', async function () \x7b"] ++
    v.bindingBody names ++ ["\x7d);"]

/-- The line that imports the page object. -/
def ArtifactNames.importLine (names : ArtifactNames) : String :=
  "const \x7b " ++ names.pageClass ++ " \x7d = require('../Pages/" ++ names.safe ++ ".page.js');"

/-- The lines of the step bindings. -/
def bindingsLines (p : Plan) : List String :=
  let names := ArtifactNames.ofPlan p
  ["const \x7b Given, When, Then \x7d = require('@cucumber/cucumber');", names.importLine] ++
    (firstViews [] p.stepViews).flatMap (StepView.bindingLines names) ++ [""]

/-- The step bindings of a plan. -/
def renderBindings (p : Plan) : String := joinLines (bindingsLines p)

end TestPlanner
