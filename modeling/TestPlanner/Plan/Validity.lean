import TestPlanner.Plan.Basic

/-!
# Valid plans

A plan can be rendered when its feature name has a letter or digit, its first step is the only
`Given`, its locator names stay apart in lower case, and every step's locator is one of the plan's.
`Plan.check` tests these conditions in that order and reports the first that fails.
-/

set_option autoImplicit false

namespace TestPlanner

/-- What makes a plan invalid. -/
inductive PlanFault where
  | unusableFeature (name : String)
  | noSteps
  | firstNotGiven (step : Step)
  | severalGivens (count : Nat)
  | duplicateLocator (name : String)
  | unknownLocator (step : Step) (name : String)
  deriving DecidableEq, Repr

namespace PlanFault

/-- The fault in words. -/
def message : PlanFault → String
  | .unusableFeature name => "feature name '" ++ name ++ "' has no alphanumeric characters"
  | .noSteps => "plan has no steps"
  | .firstNotGiven s =>
    "plan must open with a Given step, found '" ++ s.keyword.text ++ " " ++ s.text ++ "'"
  | .severalGivens n => "plan must contain exactly one Given step, found " ++ toString n
  | .duplicateLocator name => "duplicate locator name '" ++ name ++ "'"
  | .unknownLocator s name => "step '" ++ s.text ++ "' references unknown locator '" ++ name ++ "'"

end PlanFault

namespace Plan

/-- The first name whose lower-case form occurred before, those in `seen` included. -/
def firstRepeated? (seen : List String) : List String → Option String
  | [] => none
  | name :: names =>
    let small := Text.lowered name
    if seen.contains small then some name else firstRepeated? (small :: seen) names

/-- The first step whose locator is not one of the plan's, with that locator's name. -/
def firstUnknown? (p : Plan) : Option (Step × String) :=
  p.steps.findSome? fun s =>
    s.locator.bind fun name => if (p.locator? name).isSome then none else some (s, name)

/-- How many steps are a `Given`. -/
def givenCount (p : Plan) : Nat :=
  p.steps.countP fun s => s.keyword == .given

/-- The first condition that a plan breaks. -/
def fault? (p : Plan) : Option PlanFault :=
  if p.safeName.isEmpty then some (.unusableFeature p.feature)
  else match p.steps with
    | [] => some .noSteps
    | s :: _ =>
      if s.keyword != .given then some (.firstNotGiven s)
      else if p.givenCount != 1 then some (.severalGivens p.givenCount)
      else match firstRepeated? [] (p.locators.map Locator.name) with
        | some name => some (.duplicateLocator name)
        | none => p.firstUnknown?.map fun r => .unknownLocator r.1 r.2

end Plan

end TestPlanner
