import TestPlanner.Naming

/-!
# Test plans

A test plan is what every source of tests produces and what the artifacts are rendered from: a
feature with one scenario, the locators of the page elements it touches, and its steps in order.
Plans made from prose also carry the user story, the scenarios of the text, tags and figures about
the analysis.
-/

set_option autoImplicit false

namespace TestPlanner

/-- The keyword of a step. -/
inductive Keyword where
  | given
  | when
  | then
  | and
  | but
  deriving DecidableEq, Repr, Inhabited

namespace Keyword

/-- The keyword as it is written. -/
def text : Keyword → String
  | .given => "Given"
  | .when => "When"
  | .then => "Then"
  | .and => "And"
  | .but => "But"

/-- All keywords. -/
def all : List Keyword := [.given, .when, .then, .and, .but]

/-- Reads a keyword in any mixture of ASCII letter case. -/
def ofChars? (word : List Char) : Option Keyword :=
  let small := word.map Text.asciiLower
  all.find? fun k => k.text.toList.map Text.asciiLower == small

end Keyword

/-- What a step does. -/
inductive Action where
  | navigate
  | click
  | fill
  deriving DecidableEq, Repr, Inhabited

/-- One step of the scenario. -/
structure Step where
  keyword : Keyword
  text : String
  action : Option Action
  locator : Option String
  value : Option String
  deriving DecidableEq, Repr, Inhabited

namespace Step

/-- A step without an action. -/
def plain (keyword : Keyword) (text : String) : Step :=
  ⟨keyword, text, none, none, none⟩

/-- The opening step, which puts the browser on the application. -/
def navigate (text : String) (url : Option String) : Step :=
  ⟨.given, text, some .navigate, none, url⟩

/-- A click on a locator. -/
def click (keyword : Keyword) (text locator : String) : Step :=
  ⟨keyword, text, some .click, some locator, none⟩

/-- A value typed into a locator. -/
def fill (keyword : Keyword) (text locator value : String) : Step :=
  ⟨keyword, text, some .fill, some locator, some value⟩

end Step

/-- The role of a located element. -/
inductive ElementKind where
  | input
  | button
  | navigation
  | list
  | text
  deriving DecidableEq, Repr, Inhabited

/-- How sure an inferred locator is. -/
inductive Confidence where
  | high
  | medium
  deriving DecidableEq, Repr, Inhabited

/-- A named handle on a page element. -/
structure Locator where
  name : String
  selector : String
  kind : Option ElementKind
  confidence : Option Confidence
  deriving DecidableEq, Repr, Inhabited

/-- Which rule found a user story. -/
inductive StoryTier where
  | formal
  | basic
  | tagged
  | inferred
  | generic
  deriving DecidableEq, Repr, Inhabited

/-- Who wants what, and what for. -/
structure UserStory where
  actor : String
  action : String
  benefit : String
  tier : StoryTier
  deriving DecidableEq, Repr, Inhabited

/-- Where a scenario comes from. -/
inductive ScenarioKind where
  | scenario
  | outline
  | generated
  deriving DecidableEq, Repr, Inhabited

/-- The purpose of a scenario's step. -/
inductive StepPurpose where
  | setup
  | action
  | verification
  deriving DecidableEq, Repr, Inhabited

/-- A step of a scenario found in a text. -/
structure ScenarioStep where
  keyword : Keyword
  text : String
  purpose : StepPurpose
  deriving DecidableEq, Repr, Inhabited

/-- A scenario found in a text. -/
structure Scenario where
  name : String
  steps : List ScenarioStep
  kind : ScenarioKind
  deriving DecidableEq, Repr, Inhabited

/-- How involved an analysed text is. -/
inductive Complexity where
  | simple
  | moderate
  | complex
  deriving DecidableEq, Repr, Inhabited

/-- Figures about the analysis of a text. -/
structure AnalysisRecord where
  method : String
  tier : StoryTier
  tagged : Bool
  words : Nat
  sentences : Nat
  complexity : Complexity
  timestamp : String
  deriving DecidableEq, Repr, Inhabited

/-- A plan for one generated scenario. -/
structure Plan where
  feature : String
  scenario : String
  locators : List Locator
  steps : List Step
  story : Option UserStory
  scenarios : List Scenario
  tags : List String
  record : Option AnalysisRecord
  deriving DecidableEq, Repr, Inhabited

namespace Plan

/-- A plan with names only. -/
def named (feature scenario : String) : Plan :=
  ⟨feature, scenario, [], [], none, [], [], none⟩

/-- The letters and digits of the feature name, from which paths and class names are built. -/
def safeName (p : Plan) : String := Naming.stripped p.feature

/-- The first locator of a name. -/
def locator? (p : Plan) (name : String) : Option Locator :=
  p.locators.find? fun l => l.name == name

end Plan

end TestPlanner
