import TestPlanner.Plan.Basic

/-!
# Locator names

While a plan is built, a registry hands out one name per selector. A selector keeps the name of its
first request whatever labels come later. A new selector takes the identifier of its label, or, if
a name equal to it in lower case is taken, that identifier with the smallest number from two on
that makes it free.

The registry lists its selectors in order of first request, and the locators of the finished plan
are read off that list.
-/

set_option autoImplicit false

namespace TestPlanner

/-- The selectors named so far, each with its name, in order of first request. -/
structure Registry where
  entries : List (String × String)
  deriving DecidableEq, Repr, Inhabited

namespace Registry

/-- The registry before any request. -/
def empty : Registry := ⟨[]⟩

/-- The name given to a selector. -/
def get? (r : Registry) (selector : String) : Option String :=
  r.entries.lookup selector

/-- How many selectors are named. -/
def size (r : Registry) : Nat := r.entries.length

/-- The lower-case forms of the names handed out. -/
def taken (r : Registry) : List String :=
  r.entries.map fun e => Text.lowered e.2

/-- The locators of the named selectors, in order. -/
def locators (r : Registry) : List Locator :=
  r.entries.map fun e => ⟨e.2, e.1, none, none⟩

/-- The name `base` with a number behind it. -/
def numbered (base : String) (n : Nat) : String := base ++ toString n

/-- The first of `base` with numbers `n`, `n + 1`, … whose lower-case form is not taken, among as
many candidates as `fuel` permits. A candidate that is taken is struck off the taken names: no later
one has its form. -/
def firstFree (taken : List String) (base : String) (n : Nat) : (fuel : Nat) → String
  | 0 => base
  | fuel + 1 =>
    let candidate := numbered base n
    let form := Text.lowered candidate
    if taken.contains form then firstFree (taken.erase form) base (n + 1) fuel else candidate

/-- A name whose lower-case form is not taken: `base` itself, or `base` with the smallest number
from two on. One candidate more than there are taken names is always enough. -/
def freeName (taken : List String) (base : String) : String :=
  if taken.contains (Text.lowered base) then firstFree taken base 2 (taken.length + 1) else base

/-- The name of a selector, and the registry afterwards. -/
def resolve (r : Registry) (selector label : String) : String × Registry :=
  match r.get? selector with
  | some name => (name, r)
  | none =>
    let name := freeName r.taken (Naming.identifier label)
    (name, ⟨r.entries ++ [(selector, name)]⟩)

end Registry

end TestPlanner
