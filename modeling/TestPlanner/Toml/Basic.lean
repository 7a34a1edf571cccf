/-!
# TOML values

The value of a TOML document. Floats and dates keep their literal, since no setting has such a
value.
-/

set_option autoImplicit false

namespace TestPlanner

/-- A TOML value. -/
inductive Toml where
  | string (s : String)
  | integer (n : Int)
  | float (literal : String)
  | boolean (b : Bool)
  | date (literal : String)
  | array (items : List Toml)
  | table (entries : List (String × Toml))
  deriving Repr, Inhabited

end TestPlanner
