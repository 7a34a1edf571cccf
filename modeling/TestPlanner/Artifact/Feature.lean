import TestPlanner.Artifact.StepView

/-!
# The feature file

The tags on one line if there are any, the feature, the user story on three lines if there is one,
and the scenario with one line per step. The file ends with a line feed.
-/

set_option autoImplicit false

namespace TestPlanner

/-- The line of tags. -/
def tagLines (tags : List String) : List String :=
  if tags.isEmpty then [] else [String.intercalate " " (tags.map fun t => "@" ++ t)]

/-- The lines of a user story. -/
def storyLines : Option UserStory → List String
  | none => []
  | some u =>
    ["  As a " ++ singleLine u.actor, "  I want to " ++ singleLine u.action,
      "  So that " ++ singleLine u.benefit]

/-- The line of a step. -/
def StepView.featureLine (s : StepView) : String :=
  "    " ++ s.keyword.text ++ " " ++ s.text

/-- The lines of the feature file. -/
def featureLines (p : Plan) : List String :=
  tagLines p.tags ++ ["Feature: " ++ singleLine p.feature] ++ storyLines p.story ++
    ["", "  Scenario: " ++ singleLine p.scenario] ++ p.stepViews.map StepView.featureLine ++ [""]

/-- The feature file of a plan. -/
def renderFeature (p : Plan) : String := joinLines (featureLines p)

end TestPlanner
