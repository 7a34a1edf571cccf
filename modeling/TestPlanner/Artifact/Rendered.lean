import TestPlanner.Artifact.Feature
import TestPlanner.Artifact.PageObject
import TestPlanner.Artifact.Test

/-!
# Rendered plans

The four texts of a plan together.
-/

set_option autoImplicit false

namespace TestPlanner

/-- The four artifacts of a plan. -/
def Plan.render (p : Plan) : Artifacts :=
  ⟨ArtifactNames.ofPlan p, renderFeature p, renderPageObject p, renderBindings p, renderTest p⟩

end TestPlanner
