import TestPlanner.Text.Quoted
import TestPlanner.Text.Blank

/-!
# Locator expressions

A selector reaches the page object as a locator expression: one of eight methods of the page, and
its arguments. Expressions are built from a role and a name, a label, a text or a raw selector,
each argument in a single-quoted literal.

**Normal form.** `normalize` turns any selector into an accepted expression. Blanks around it and
one leading `page.` are dropped, since the page object puts that qualifier in front. An accepted
expression is then kept, an id selector becomes a lookup by test id, and everything else is wrapped
as a raw selector.
-/

set_option autoImplicit false

namespace TestPlanner.Selector

open Text

/-- The methods of a page that return a locator. -/
def methods : List String :=
  ["getByRole", "getByLabel", "getByText", "getByPlaceholder", "getByTestId", "getByAltText",
    "getByTitle", "locator"]

/-- The qualifier that the page object supplies. -/
def qualifier : List Char := "page.".toList

/-- Whether a text starts with a locator method and an opening parenthesis. -/
def acceptedChars (s : List Char) : Bool :=
  methods.any fun m => (m.toList ++ ['(']).isPrefixOf s

/-- Whether a selector already is a locator expression. -/
def isAccepted (selector : String) : Bool :=
  acceptedChars selector.toList

/-- A call of a locator method with one literal argument. -/
def call (method argument : String) : String :=
  method ++ "(" ++ Quoted.literal argument ++ ")"

/-- The locator for a raw selector. -/
def raw (selector : String) : String := call "locator" selector

/-- The locator for a form field by its label. -/
def label (text : String) : String := call "getByLabel" text

/-- The locator for an element by its text. -/
def text (text : String) : String := call "getByText" text

/-- The locator for an element by its test id. -/
def testId (id : String) : String := call "getByTestId" id

/-- The locator for an element by its role and accessible name. -/
def role (role name : String) : String :=
  "getByRole(" ++ Quoted.literal role ++ ", \x7b name: " ++ Quoted.literal name ++ " \x7d)"

/-- A selector without surrounding blanks and without one leading qualifier. -/
def unqualified (selector : List Char) : List Char :=
  let s := trim selector
  (after? qualifier s).getD s

/-- The locator expression for any selector. -/
def normalize (selector : String) : String :=
  let s := unqualified selector.toList
  if acceptedChars s then String.ofList s
  else match s with
    | '#' :: id => testId (String.ofList id)
    | _ => raw (String.ofList s)

end TestPlanner.Selector
