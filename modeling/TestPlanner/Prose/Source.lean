import TestPlanner.Configuration.Basic
import TestPlanner.Failure
import TestPlanner.Files.Workspace
import TestPlanner.Prose.Analysis
import TestPlanner.Synthesis.Request

/-!
# Plans from texts

The input of a request is the text itself, unless it is the path of a file: then the text is read
from there. Neither may be blank.
-/

set_option autoImplicit false

namespace TestPlanner.Prose

open Files (Workspace)

/-- The text that an input stands for. -/
def textOf (w : Workspace) (input : String) : Except Failure String :=
  if w.isFile input then
    match w.readText input with
    | .ok text => .ok text
    | .error fault => .error (.sourceFault .text fault)
  else .ok input

/-- The plan for the text of a request; `marker` is the marker that is used if word classes are to
be marked. -/
def plan (settings : TextSettings) (marker : Option Marker) (timestamp : String) (w : Workspace)
    (r : Request) : Except Failure Plan :=
  if Text.allBlank r.input.toList then .error (.invalid .emptyText)
  else do
    let text ← textOf w r.input
    if Text.allBlank text.toList then .error (.invalid (.blankText r.input))
    else
      let isMarked := r.useMarking.getD settings.useMarking
      pure (analyze text r.feature (if isMarked then marker else none) timestamp)

end TestPlanner.Prose
