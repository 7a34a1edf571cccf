import TestPlanner.Prose.Story
import TestPlanner.Prose.Scenarios
import TestPlanner.Prose.Elements
import TestPlanner.Prose.Measures

/-!
# Plans from prose

The analysis of a text puts together its user story, its scenarios, the elements it speaks of, and
its tags and figures. The feature is named after the caller's choice, or after the scenario when the
choice leaves nothing once it is cleaned.
-/

set_option autoImplicit false

namespace TestPlanner.Prose

/-- What marks the word classes of a text; `none` when it fails. -/
abbrev Marker := List Char → Option Marking

/-- The marker of the built-in lexicon, which never fails. -/
def lexiconMarker : Marker := fun text => some (mark text)

/-- The feature name: the caller's if it is usable, else the scenario's. -/
def featureName (chosen : Option String) (scenario : String) : String :=
  match (chosen.map Naming.sanitize).filter fun name => !name.isEmpty with
  | some name => name
  | none => Naming.sanitize scenario

/-- The plan for a text. `marker` is the word-class marker to use, if any. -/
def analyze (text : String) (feature : Option String) (marker : Option Marker)
    (timestamp : String) : Plan :=
  let chars := text.toList
  let story := userStory chars marker
  let scenario := scenarioName chars story
  let locators := inferredLocators chars
  { feature := featureName feature scenario
    scenario := scenario
    locators := locators
    steps := inferredSteps locators
    story := some story
    scenarios := scenarios chars story
    tags := tags chars
    record := some (analysisRecord chars story.tier marker.isSome timestamp) }

end TestPlanner.Prose
