/-!
# Requests

What a source of plans is asked: its input, the feature name that the caller chose, and whether word
classes are to be marked, if the caller says so. The input is a start address, the path of an image
or of a text, or a text itself, depending on the source.
-/

set_option autoImplicit false

namespace TestPlanner

/-- What a source of plans is asked. -/
structure Request where
  input : String
  feature : Option String
  useMarking : Option Bool
  deriving DecidableEq, Repr

end TestPlanner
