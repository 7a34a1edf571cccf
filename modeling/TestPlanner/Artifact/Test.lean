import TestPlanner.Artifact.Bindings

/-!
# The test

One test inside one suite. Every step is a comment, followed by its action if it has one. A
navigating step without an address opens the one from the environment, or the root.
-/

set_option autoImplicit false

namespace TestPlanner

open Text

/-- The comment of a step. -/
def StepView.commentLine (v : StepView) : String :=
  "    // " ++ v.keyword.text ++ " " ++ v.text

/-- The statements of a step. -/
def StepView.testBody (names : ArtifactNames) (v : StepView) : List String :=
  match v.action, v.locator with
  | some .navigate, _ =>
    let target := match v.value with
      | some url => "'" ++ url ++ "'"
      | none => "process.env.APP_URL || '/'"
    ["    await " ++ names.pageInstance ++ ".goto(" ++ target ++ ");"]
  | some .click, some locator =>
    ["    await " ++ names.pageInstance ++ "." ++ locator ++ ".click();"]
  | some .fill, some locator =>
    ["    await " ++ names.pageInstance ++ "." ++ locator ++ ".fill('" ++ v.value.getD "" ++ "');"]
  | _, _ => []

/-- The lines of the test. -/
def testLines (p : Plan) : List String :=
  let names := ArtifactNames.ofPlan p
  ["const \x7b test \x7d = require('@playwright/test');", names.importLine, "",
    "test.describe(" ++ Quoted.literal (singleLine p.feature) ++ ", () => \x7b",
    "  test(" ++ Quoted.literal (singleLine p.scenario) ++ ", async (\x7b page \x7d) => \x7b",
    "    const " ++ names.pageInstance ++ " = new " ++ names.pageClass ++ "(page);"] ++
    p.stepViews.flatMap (fun v => v.commentLine :: v.testBody names) ++
    ["  \x7d);", "\x7d);", ""]

/-- The test of a plan. -/
def renderTest (p : Plan) : String := joinLines (testLines p)

end TestPlanner
