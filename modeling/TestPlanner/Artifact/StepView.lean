import TestPlanner.Plan.Basic
import TestPlanner.Text.Quoted

/-!
# Steps as the artifacts show them

Every artifact shows a step on one line, so line breaks inside its text become single spaces. A
binding is registered under `Given`, `When` or `Then`: an `And` or `But` continues the nearest
step before it that is neither, and a plan that starts with one continues a `Given`.

The pattern of a binding must match the step text literally. Characters with a meaning in a
Cucumber expression are escaped with a backslash, and the result is escaped once more for the
script literal that holds it.
-/

set_option autoImplicit false

namespace TestPlanner

open Text

/-- Whether a character breaks a line in a feature file. -/
def isLineBreak (c : Char) : Bool := c == '\r' || c == '\n'

/-- A text on one line: its trimmed lines that are not blank, single spaces between them. -/
def singleLineChars (s : List Char) : List Char :=
  joinWith [' '] (nonblankPieces isLineBreak s)

/-- A string on one line. -/
def singleLine (s : String) : String := String.ofList (singleLineChars s.toList)

namespace CucumberExpression

/-- The characters with a meaning in a Cucumber expression. -/
def isMeta (c : Char) : Bool :=
  c == '\\' || c == '(' || c == ')' || c == '\x7b' || c == '\x7d' || c == '/'

/-- The expression that matches a text literally. -/
def encode (s : List Char) : List Char :=
  s.flatMap fun c => if isMeta c then ['\\', c] else [c]

/-- The text that an expression of escaped and plain characters matches; `none` if it has a
character with a meaning or an escape of any other. -/
def decode? : List Char → Option (List Char)
  | [] => some []
  | '\\' :: [] => none
  | '\\' :: c :: s => if isMeta c then (decode? s).map (c :: ·) else none
  | c :: s => if isMeta c then none else (decode? s).map (c :: ·)

end CucumberExpression

/-- The pattern of a binding for a one-line text, escaped for a script literal. -/
def patternChars (text : List Char) : List Char :=
  Quoted.encode (CucumberExpression.encode text)

/-- A step as the artifacts show it. -/
structure StepView where
  keyword : Keyword
  /-- the keyword under which the binding is registered -/
  binding : Keyword
  /-- the text on one line -/
  text : String
  /-- the pattern, ready for a script literal -/
  pattern : String
  action : Option Action
  locator : Option String
  /-- the fill value or the address, ready for a script literal -/
  value : Option String
  deriving DecidableEq, Repr, Inhabited

/-- The keyword that a step is bound under, after a step bound under `before`. -/
def Keyword.resolved (before : Keyword) : Keyword → Keyword
  | .and => before
  | .but => before
  | k => k

/-- A step as the artifacts show it, after a step bound under `before`. -/
def StepView.ofStep (before : Keyword) (s : Step) : StepView :=
  let text := singleLineChars s.text.toList
  ⟨s.keyword, before.resolved s.keyword, String.ofList text,
    String.ofList (patternChars text), s.action, s.locator, s.value.map Quoted.escaped⟩

/-- Steps as the artifacts show them, after a step bound under `before`. -/
def stepViewsAfter (before : Keyword) : List Step → List StepView
  | [] => []
  | s :: steps => StepView.ofStep before s :: stepViewsAfter (before.resolved s.keyword) steps

/-- The steps of a plan as the artifacts show them. -/
def Plan.stepViews (p : Plan) : List StepView := stepViewsAfter .given p.steps

/-- Lines with a line feed between neighbours. -/
def joinLines (lines : List String) : String := String.intercalate "\n" lines

end TestPlanner
