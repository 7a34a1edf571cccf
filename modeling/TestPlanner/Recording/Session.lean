import TestPlanner.Recording.Event
import TestPlanner.Registry
import TestPlanner.Selector
import TestPlanner.Failure

/-!
# Recorded sessions

A session folds the events of a browser into a plan. It opens with a step that goes to the start
address. When a page is ready, its title names the scenario, and the feature too unless the caller
named it. Every action adds one step, unless a step of the same text is there already; its locator
is named by a registry.

**Running a stream.** Actions before the first ready page are passed over, the stream counts up to
the first closed page, an error stops the session, and a session without a ready page fails.
-/

set_option autoImplicit false

namespace TestPlanner.Recording

open Text

/-- A session in progress. -/
structure Session where
  feature : String
  scenario : String
  /-- whether the caller named the feature -/
  named : Bool
  start : String
  registry : Registry
  /-- the steps after the opening one, in order -/
  actions : List Step
  deriving DecidableEq, Repr, Inhabited

namespace Session

/-- The feature name of a session that nothing names. -/
def defaultFeature : String := "RecordedFeature"

/-- The scenario name of a session whose page has no title. -/
def defaultScenario : String := "A scenario recorded from user actions"

/-- The session before any event. -/
def new (start : String) (feature : Option String) : Session :=
  ⟨feature.getD defaultFeature, defaultScenario, feature.isSome, start, .empty, []⟩

/-- The session after its page is ready. -/
def begin (s : Session) (title : Option String) : Session :=
  let title := trimmed (title.getD "")
  if title.isEmpty then s
  else
    let name := Naming.stripped title
    { s with
      feature := if s.named || name.isEmpty then s.feature else name
      scenario := "A recorded scenario on the '" ++ title ++ "' page" }

/-- What an action's element is called: its text, or the kind of the action. -/
def caption (a : UserAction) : String :=
  let text := trimmed (a.text.getD "")
  if text.isEmpty then a.kind.name else text

/-- What is clicked. -/
def clickTarget (a : UserAction) : String :=
  if a.tag == some "a" then "link"
  else if a.tag == some "button" then "button"
  else if a.tag == some "input" && a.inputType == some "submit" then "button"
  else "element"

/-- The text of an action's step. -/
def stepText (a : UserAction) : String :=
  match a.kind with
  | .click => "I click on the '" ++ caption a ++ "' " ++ clickTarget a
  | .fill => "I fill the '" ++ caption a ++ "' field with '" ++ a.value.getD "" ++ "'"

/-- The step of an action on a named locator. -/
def actionStep (first : Bool) (locator : String) (a : UserAction) : Step :=
  let keyword := if first then .when else .and
  match a.kind with
  | .click => .click keyword (stepText a) locator
  | .fill => .fill keyword (stepText a) locator (a.value.getD "")

/-- The session after an action, and whether the action added a step. -/
def apply (s : Session) (a : UserAction) : Bool × Session :=
  let (name, registry) := s.registry.resolve (Selector.raw a.selector) (caption a)
  let step := actionStep s.actions.isEmpty name a
  if s.actions.any fun t => t.text == step.text then (false, { s with registry := registry })
  else (true, { s with registry := registry, actions := s.actions ++ [step] })

/-- The plan of a session so far. -/
def plan (s : Session) : Plan :=
  { Plan.named s.feature s.scenario with
    locators := s.registry.locators
    steps := .navigate "I am on the application" (some s.start) :: s.actions }

/-- The session after a stream of events; `ready` tells whether its page was ready before. -/
def run (ready : Bool) (s : Session) : List SessionEvent → Except Failure Session
  | [] => finish ready s
  | .ready title :: events => run true (s.begin title) events
  | .action a :: events => run ready (if ready then (s.apply a).2 else s) events
  | .closed :: _ => finish ready s
  | .error message :: _ => .error (.sourceMessage .recording message)
where
  /-- the end of a stream -/
  finish (ready : Bool) (s : Session) : Except Failure Session :=
    if ready then .ok s
    else .error (.sourceMessage .recording "browser session ended before the page was ready")

end Session

/-- The plan of a stream of events. -/
def record (start : String) (feature : Option String) (events : List SessionEvent) :
    Except Failure Plan :=
  (Session.run false (.new start feature) events).map Session.plan

end TestPlanner.Recording
