import TestPlanner.Plan.Basic
import TestPlanner.Files.Path

/-!
# The four artifacts of a plan

A plan is rendered as a feature file, a page object, step bindings and a test. Each has a directory
of its own below the directory of the feature, and a file name built from the feature's safe name.

The page object's class and instance are named after the safe name too. Identifiers must not start
with a digit, so a safe name that does gets the word `Feature` in front.
-/

set_option autoImplicit false

namespace TestPlanner

/-- The kind of an artifact. -/
inductive ArtifactKind where
  | feature
  | pageObject
  | steps
  | test
  deriving DecidableEq, Repr, Inhabited

namespace ArtifactKind

/-- The kinds in the order in which they are written. -/
def all : List ArtifactKind := [.feature, .pageObject, .steps, .test]

/-- The kind's name in reports. -/
def name : ArtifactKind → String
  | .feature => "feature"
  | .pageObject => "page_object"
  | .steps => "steps"
  | .test => "test"

/-- The directory of a kind. -/
def directory : ArtifactKind → String
  | .feature => "Features"
  | .pageObject => "Pages"
  | .steps => "Steps"
  | .test => "Tests"

/-- What follows the safe name in the file name of a kind. -/
def fileEnding : ArtifactKind → String
  | .feature => ".feature"
  | .pageObject => ".page.js"
  | .steps => ".steps.js"
  | .test => ".test.js"

/-- The file name of a kind. -/
def fileName (k : ArtifactKind) (safe : String) : String := safe ++ k.fileEnding

/-- The path of a kind below the directory of the feature. -/
def relativePath (k : ArtifactKind) (safe : String) : String :=
  Files.join k.directory (k.fileName safe)

end ArtifactKind

/-- The names that the artifacts of a plan share. -/
structure ArtifactNames where
  safe : String
  pageClass : String
  pageInstance : String
  deriving DecidableEq, Repr, Inhabited

/-- A safe name as the start of an identifier. -/
def identifierStart (safe : String) : String :=
  match safe.toList with
  | c :: _ => if Text.isAsciiDigit c then "Feature" ++ safe else safe
  | [] => safe

/-- The names for a plan. -/
def ArtifactNames.ofPlan (p : Plan) : ArtifactNames :=
  let start := identifierStart p.safeName
  ⟨p.safeName, Naming.capitalized start ++ "Page", Naming.uncapitalized start ++ "Page"⟩

/-- The rendered texts of a plan. -/
structure Artifacts where
  names : ArtifactNames
  feature : String
  pageObject : String
  steps : String
  test : String
  deriving DecidableEq, Repr, Inhabited

/-- The text of a kind. -/
def Artifacts.get (a : Artifacts) : ArtifactKind → String
  | .feature => a.feature
  | .pageObject => a.pageObject
  | .steps => a.steps
  | .test => a.test

end TestPlanner
