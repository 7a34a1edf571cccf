import TestPlanner.Prose.Keywords
import TestPlanner.Text.Phrase

/-!
# Scenarios in a text

A line that starts with `Scenario:` or `Scenario Outline:` opens a scenario, and the lines below it
are its steps. A line with a step keyword in front is a step under that keyword. Any other line of
more than ten characters becomes a `Given` step as it stands, and shorter ones are passed over.
Lines are trimmed first, and blank lines do not count. A text without such a header has one
scenario, generated from its user story.

The name of the plan's scenario is taken from the first label of that kind anywhere in the text,
else from a keyword table, else from the story.
-/

set_option autoImplicit false

namespace TestPlanner.Prose

open Text

/-- Whether a line, given in lower case, opens a scenario. -/
def isHeader (smallLine : List Char) : Bool :=
  "scenario:".toList.isPrefixOf smallLine || "scenario outline:".toList.isPrefixOf smallLine

/-- The rest of a text after `word`, if it starts with it in any case; else the text. -/
def skipPhrase (word s : List Char) : List Char := (phrase? word s).getD s

/-- The name in a header line: what follows the colon and its blanks. -/
def headerName? (line : List Char) : Option (List Char) := do
  let s ← phrase? "scenario".toList line
  match trimStart (skipPhrase "outline".toList (trimStart s)) with
  | ':' :: s => some (trimStart s)
  | _ => none

/-- The kind that a header line, given in lower case, stands for. -/
def headerKind (smallLine : List Char) : ScenarioKind :=
  if occursIn "outline".toList smallLine then .outline else .scenario

/-- The step keywords in the order in which they are tried. -/
def stepWords : List (List Char) :=
  ["given".toList, "when".toList, "then".toList, "and".toList, "but".toList]

/-- A step line as its keyword and its text. -/
def stepLine? (line : List Char) : Option (Keyword × List Char) :=
  stepWords.findSome? fun word =>
    (phrase? word line).bind fun s =>
      match s with
      | [] => none
      | c :: rest =>
        if isBlank c then
          some ((Keyword.ofChars? (line.take word.length)).getD .given, trimStart rest)
        else none

/-- The purpose of a step line by the words it mentions. -/
def stepPurpose (line : List Char) : StepPurpose :=
  let small := lower line
  if mentions ["given", "setup"] small then .setup
  else if mentions ["when", "click", "enter"] small then .action
  else if mentions ["then", "should", "expect"] small then .verification
  else .action

/-- A line that is neither a header nor a step becomes one if it is longer than this. -/
def descriptionLimit : Nat := 10

/-- The step that a line of a scenario stands for. -/
def scenarioStep? (line : List Char) : Option ScenarioStep :=
  match stepLine? line with
  | some (keyword, text) => some ⟨keyword, String.ofList text, stepPurpose line⟩
  | none =>
    if line.length > descriptionLimit then some ⟨.given, String.ofList line, .action⟩ else none

/-- The scenario that a header opens, with the steps of the lines below it. -/
def scenarioOf (header : List Char) (smallHeader : List Char) (steps : List ScenarioStep) :
    Scenario :=
  ⟨String.ofList ((headerName? header).getD header), steps, headerKind smallHeader⟩

/-- The steps of the lines up to the next header, and the scenarios from there on. -/
def scenariosFrom : List (List Char) → List ScenarioStep × List Scenario
  | [] => ([], [])
  | line :: lines =>
    let (steps, scenarios) := scenariosFrom lines
    let small := lower line
    if isHeader small then ([], scenarioOf line small steps :: scenarios)
    else ((scenarioStep? line).toList ++ steps, scenarios)

/-- The scenarios under the headers of a text. -/
def explicitScenarios (text : List Char) : List Scenario :=
  (scenariosFrom (nonblankLines text)).2

/-- The scenario generated from a story. -/
def generatedScenario (story : UserStory) : Scenario :=
  ⟨story.actor ++ " " ++ story.action,
    [⟨.given, "I am a " ++ story.actor, .setup⟩, ⟨.when, "I " ++ story.action, .action⟩,
      ⟨.then, "I should be able to " ++ story.benefit, .verification⟩],
    .generated⟩

/-- The scenarios of a text. -/
def scenarios (text : List Char) (story : UserStory) : List Scenario :=
  match explicitScenarios text with
  | [] => [generatedScenario story]
  | found => found

/-! ## The name of the plan's scenario -/

/-- A scenario label, with the name behind it as its part. -/
def scenarioLabel : Phrase :=
  [.run isBlank, .word "scenario".toList, .perhapsSpaced "outline".toList, .run isBlank,
    .word [':'], .run isBlank, .part, .run isBlank, .stop '\n']

/-- The name of the plan's scenario. -/
def scenarioName (text : List Char) (story : UserStory) : String :=
  match scenarioLabel.findOnLine? text with
  | some [name] => String.ofList name
  | _ =>
    let small := lower text
    match scenarioNameRules.find? fun r => mentions r.1 small with
    | some r => r.2
    | none => story.actor ++ " " ++ story.action

end TestPlanner.Prose
