import TestPlanner.Plan.Basic

/-!
# Keyword tables

What the planner infers from the words of a text. Every table is read from top to bottom, and a
keyword counts when it occurs anywhere in the lower-case text, inside longer words too.
-/

set_option autoImplicit false

namespace TestPlanner.Prose

/-- Whether one of the keywords occurs in a lower-case text. -/
def mentions (keywords : List String) (smallText : List Char) : Bool :=
  keywords.any fun k => Text.occursIn k.toList smallText

/-- A locator for texts that mention certain keywords. -/
structure LocatorRule where
  keywords : List String
  name : String
  selector : String
  kind : ElementKind

/-- The locators that keywords call for. -/
def locatorRules : List LocatorRule :=
  [{ keywords := ["username", "user name", "login", "log in", "log into", "sign in", "email"]
     name := "usernameInput", selector := "getByLabel('Username')", kind := .input },
   { keywords := ["password", "pwd", "login", "log in", "log into", "sign in"]
     name := "passwordInput", selector := "getByLabel('Password')", kind := .input },
   { keywords := ["login", "log in", "log into", "sign in", "submit"]
     name := "loginButton"
     selector := "getByRole('button', \x7b name: /login|sign in/i \x7d)", kind := .button },
   { keywords := ["search", "find"]
     name := "searchInput", selector := "getByPlaceholder('Search')", kind := .input },
   { keywords := ["menu", "navigation"]
     name := "mainNavigation", selector := "getByRole('navigation')", kind := .navigation },
   { keywords := ["product", "item", "list"]
     name := "productList"
     selector := "getByRole('grid', \x7b name: 'Products' \x7d)", kind := .list },
   { keywords := ["add", "create", "new"]
     name := "addButton"
     selector := "getByRole('button', \x7b name: /add|create|new/i \x7d)", kind := .button },
   { keywords := ["save", "update"]
     name := "saveButton"
     selector := "getByRole('button', \x7b name: /save|update/i \x7d)", kind := .button },
   { keywords := ["cancel", "close"]
     name := "cancelButton"
     selector := "getByRole('button', \x7b name: /cancel|close/i \x7d)", kind := .button }]

/-- A user story for texts that mention certain keywords. -/
structure StoryRule where
  keywords : List String
  actor : String
  action : String
  benefit : String

/-- The stories that keywords suggest. -/
def storyRules : List StoryRule :=
  [{ keywords := ["login", "log in", "log into", "sign in", "authenticate", "password"]
     actor := "registered user", action := "log into my account"
     benefit := "access my personal dashboard and account features" },
   { keywords := ["register", "sign up", "create account", "new user"]
     actor := "new user", action := "create an account"
     benefit := "access the platform's features and services" },
   { keywords := ["search", "find", "lookup", "query"]
     actor := "user", action := "search for information"
     benefit := "quickly find what I'm looking for" },
   { keywords := ["purchase", "buy", "order", "checkout", "cart"]
     actor := "customer", action := "complete a purchase"
     benefit := "buy the products I need" },
   { keywords := ["form", "submit", "data entry", "input"]
     actor := "user", action := "fill out and submit a form"
     benefit := "provide the required information" },
   { keywords := ["plp", "product list", "products", "catalog"]
     actor := "customer", action := "browse and view products"
     benefit := "find products that meet my needs" },
   { keywords := ["employee", "staff", "add user", "manage"]
     actor := "administrator", action := "manage employee information"
     benefit := "maintain accurate records" }]

/-- The scenario names that keywords suggest. -/
def scenarioNameRules : List (List String × String) :=
  [(["login", "log in", "log into", "sign in"], "User successfully logs into their account"),
   (["register", "sign up"], "New user successfully creates an account"),
   (["search", "find"], "User searches for information"),
   (["purchase", "buy", "checkout"], "Customer completes a purchase"),
   (["form", "submit"], "User successfully submits a form"),
   (["employee", "add", "create"], "Administrator manages data successfully")]

/-- The tags that keywords earn. -/
def tagRules : List (String × List String) :=
  [("authentication", ["login", "log in", "log into", "sign in", "password", "auth"]),
   ("registration", ["register", "sign up", "create account"]),
   ("search", ["search", "find", "query"]),
   ("ecommerce", ["purchase", "buy", "cart", "checkout"]),
   ("navigation", ["menu", "navigate", "link"]),
   ("forms", ["form", "input", "submit"]),
   ("crud", ["create", "read", "update", "delete", "add", "edit"]),
   ("admin", ["admin", "management", "employee"]),
   ("critical", ["critical", "important"]),
   ("smoke", ["smoke", "basic"])]

/-- The nouns that name an actor. -/
def roleNouns : List String := ["user", "customer", "admin", "visitor"]

end TestPlanner.Prose
