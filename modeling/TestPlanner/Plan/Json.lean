import TestPlanner.Plan.Basic
import TestPlanner.Json.Record

/-!
# Plans in JSON

The JSON form of a plan. Writing leaves out absent options and, of the lists, the scenarios and the
tags when they are empty; reading takes a missing list as empty. Word and sentence counts are
64-bit numbers.

Each enumeration is written through one table of its names, and read through the same table.
-/

set_option autoImplicit false

namespace TestPlanner

open Json

/-! ## Enumerations -/

/-- The names of the keywords. -/
def Keyword.names : List (String × Keyword) := Keyword.all.map fun k => (k.text, k)

/-- The names of the actions. -/
def Action.names : List (String × Action) :=
  [("navigate", .navigate), ("click", .click), ("fill", .fill)]

/-- The name of an action. -/
def Action.name : Action → String
  | .navigate => "navigate"
  | .click => "click"
  | .fill => "fill"

/-- The name of an element kind. -/
def ElementKind.name : ElementKind → String
  | .input => "input"
  | .button => "button"
  | .navigation => "navigation"
  | .list => "list"
  | .text => "text"

/-- The names of the element kinds. -/
def ElementKind.names : List (String × ElementKind) :=
  [.input, .button, .navigation, .list, .text].map fun k => (k.name, k)

/-- The name of a confidence. -/
def Confidence.name : Confidence → String
  | .high => "high"
  | .medium => "medium"

/-- The names of the confidences. -/
def Confidence.names : List (String × Confidence) :=
  [.high, .medium].map fun k => (k.name, k)

/-- The name of a story tier. -/
def StoryTier.name : StoryTier → String
  | .formal => "formal"
  | .basic => "basic"
  | .tagged => "nlp-extracted"
  | .inferred => "context-inferred"
  | .generic => "generic"

/-- The names of the story tiers. -/
def StoryTier.names : List (String × StoryTier) :=
  [.formal, .basic, .tagged, .inferred, .generic].map fun k => (k.name, k)

/-- The name of a scenario kind. -/
def ScenarioKind.name : ScenarioKind → String
  | .scenario => "scenario"
  | .outline => "outline"
  | .generated => "generated"

/-- The names of the scenario kinds. -/
def ScenarioKind.names : List (String × ScenarioKind) :=
  [.scenario, .outline, .generated].map fun k => (k.name, k)

/-- The name of a step purpose. -/
def StepPurpose.name : StepPurpose → String
  | .setup => "setup"
  | .action => "action"
  | .verification => "verification"

/-- The names of the step purposes. -/
def StepPurpose.names : List (String × StepPurpose) :=
  [.setup, .action, .verification].map fun k => (k.name, k)

/-- The name of a complexity. -/
def Complexity.name : Complexity → String
  | .simple => "simple"
  | .moderate => "moderate"
  | .complex => "complex"

/-- The names of the complexities. -/
def Complexity.names : List (String × Complexity) :=
  [.simple, .moderate, .complex].map fun k => (k.name, k)

/-! ## Writing -/

/-- The JSON form of a locator. -/
def Locator.toJson (l : Locator) : Json :=
  .object <| [("name", .string l.name), ("selector", .string l.selector)]
    ++ memberIfSome "type" (fun k : ElementKind => .string k.name) l.kind
    ++ memberIfSome "confidence" (fun c : Confidence => .string c.name) l.confidence

/-- The JSON form of a step. -/
def Step.toJson (s : Step) : Json :=
  .object <| [("keyword", .string s.keyword.text), ("text", .string s.text)]
    ++ memberIfSome "actionType" (fun a : Action => .string a.name) s.action
    ++ memberIfSome "locatorName" Json.string s.locator
    ++ memberIfSome "actionValue" Json.string s.value

/-- The JSON form of a user story. -/
def UserStory.toJson (u : UserStory) : Json :=
  .object [("actor", .string u.actor), ("action", .string u.action),
    ("benefit", .string u.benefit), ("type", .string u.tier.name)]

/-- The JSON form of a scenario's step. -/
def ScenarioStep.toJson (s : ScenarioStep) : Json :=
  .object [("keyword", .string s.keyword.text), ("text", .string s.text),
    ("type", .string s.purpose.name)]

/-- The JSON form of a scenario. -/
def Scenario.toJson (s : Scenario) : Json :=
  .object [("name", .string s.name), ("steps", .array (s.steps.map ScenarioStep.toJson)),
    ("type", .string s.kind.name)]

/-- The JSON form of an analysis record. -/
def AnalysisRecord.toJson (r : AnalysisRecord) : Json :=
  .object [("analysisMethod", .string r.method), ("storyTier", .string r.tier.name),
    ("nlpUsed", .bool r.tagged), ("wordCount", .nat r.words),
    ("sentenceCount", .nat r.sentences), ("complexity", .string r.complexity.name),
    ("timestamp", .string r.timestamp)]

/-- The JSON form of a plan. -/
def Plan.toJson (p : Plan) : Json :=
  .object <| [("featureName", .string p.feature), ("scenarioName", .string p.scenario),
      ("locators", .array (p.locators.map Locator.toJson)),
      ("steps", .array (p.steps.map Step.toJson))]
    ++ memberIfSome "userStory" UserStory.toJson p.story
    ++ (if p.scenarios.isEmpty then []
        else [("scenarios", .array (p.scenarios.map Scenario.toJson))])
    ++ (if p.tags.isEmpty then [] else [("tags", .array (p.tags.map Json.string))])
    ++ memberIfSome "metadata" AnalysisRecord.toJson p.record

/-! ## Reading -/

/-- Reads a locator. -/
def Locator.ofJson? (v : Json) : Option Locator :=
  match fields? ["name", "selector", "type", "confidence"] v with
  | some [name, selector, kind, confidence] => do
    pure {
      name := ← required string? name
      selector := ← required string? selector
      kind := ← optional (choice? isNull ElementKind.names) kind
      confidence := ← optional (choice? isNull Confidence.names) confidence }
  | _ => none

/-- Reads a step. -/
def Step.ofJson? (v : Json) : Option Step :=
  match fields? ["keyword", "text", "actionType", "locatorName", "actionValue"] v with
  | some [keyword, text, action, locator, value] => do
    pure {
      keyword := ← required (choice? isNull Keyword.names) keyword
      text := ← required string? text
      action := ← optional (choice? isNull Action.names) action
      locator := ← optional string? locator
      value := ← optional string? value }
  | _ => none

/-- Reads a user story. -/
def UserStory.ofJson? (v : Json) : Option UserStory :=
  match fields? ["actor", "action", "benefit", "type"] v with
  | some [actor, action, benefit, tier] => do
    pure {
      actor := ← required string? actor
      action := ← required string? action
      benefit := ← required string? benefit
      tier := ← required (choice? isNull StoryTier.names) tier }
  | _ => none

/-- Reads a scenario's step. -/
def ScenarioStep.ofJson? (v : Json) : Option ScenarioStep :=
  match fields? ["keyword", "text", "type"] v with
  | some [keyword, text, purpose] => do
    pure {
      keyword := ← required (choice? isNull Keyword.names) keyword
      text := ← required string? text
      purpose := ← required (choice? isNull StepPurpose.names) purpose }
  | _ => none

/-- Reads a scenario. -/
def Scenario.ofJson? (v : Json) : Option Scenario :=
  match fields? ["name", "steps", "type"] v with
  | some [name, steps, kind] => do
    pure {
      name := ← required string? name
      steps := ← required (list? ScenarioStep.ofJson?) steps
      kind := ← required (choice? isNull ScenarioKind.names) kind }
  | _ => none

/-- One more than the greatest count. -/
def countBound : Nat := Nat.pow 2 64

/-- Reads an analysis record. -/
def AnalysisRecord.ofJson? (v : Json) : Option AnalysisRecord :=
  match fields? ["analysisMethod", "storyTier", "nlpUsed", "wordCount", "sentenceCount",
      "complexity", "timestamp"] v with
  | some [method, tier, tagged, words, sentences, complexity, timestamp] => do
    pure {
      method := ← required string? method
      tier := ← required (choice? isNull StoryTier.names) tier
      tagged := ← required bool? tagged
      words := ← required (natBelow? countBound) words
      sentences := ← required (natBelow? countBound) sentences
      complexity := ← required (choice? isNull Complexity.names) complexity
      timestamp := ← required string? timestamp }
  | _ => none

/-- Reads a plan. -/
def Plan.ofJson? (v : Json) : Option Plan :=
  match fields? ["featureName", "scenarioName", "locators", "steps", "userStory", "scenarios",
      "tags", "metadata"] v with
  | some [feature, scenario, locators, steps, story, scenarios, tags, record] => do
    pure {
      feature := ← required string? feature
      scenario := ← required string? scenario
      locators := ← defaulted [] (list? Locator.ofJson?) locators
      steps := ← defaulted [] (list? Step.ofJson?) steps
      story := ← optional UserStory.ofJson? story
      scenarios := ← defaulted [] (list? Scenario.ofJson?) scenarios
      tags := ← defaulted [] (list? string?) tags
      record := ← optional AnalysisRecord.ofJson? record }
  | _ => none

end TestPlanner
