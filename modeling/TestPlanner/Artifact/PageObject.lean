import TestPlanner.Artifact.StepView
import TestPlanner.Artifact.Kind

/-!
# The page object

A class that holds the page and one property per locator, and a method that opens an address. The
class is the module's only export.
-/

set_option autoImplicit false

namespace TestPlanner

/-- The constructor line of a locator. -/
def Locator.pageLine (l : Locator) : String :=
  "    this." ++ l.name ++ " = page." ++ l.selector ++ ";"

/-- The lines of the page object. -/
def pageObjectLines (p : Plan) : List String :=
  let pageClass := (ArtifactNames.ofPlan p).pageClass
  ["class " ++ pageClass ++ " \x7b", "  constructor(page) \x7b", "    this.page = page;"] ++
    p.locators.map Locator.pageLine ++
    ["  \x7d", "", "  async goto(url) \x7b", "    await this.page.goto(url);", "  \x7d", "\x7d", "",
      "module.exports = \x7b " ++ pageClass ++ " \x7d;", ""]

/-- The page object of a plan. -/
def renderPageObject (p : Plan) : String := joinLines (pageObjectLines p)

end TestPlanner
