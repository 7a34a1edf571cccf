import TestPlanner.Json.Basic

/-!
# Records in JSON

How records and enumerations are read from JSON values.

**Records.** A record is an object with one member per field, or an array of the fields in order.
In an object, unknown members are skipped and a known one may occur only once; in an array, fields
may be missing at the end and none may follow the last. A field that is left out may have a
default, and an optional field may also be null.

**Enumerations.** A choice is a string, or an object whose only member has that string as its key
and an empty value.
-/

set_option autoImplicit false

namespace TestPlanner.Json

universe u

variable {α : Type u}

/-- The value of the only member of a key: `none` when the key occurs twice, and otherwise its
value if it has one. -/
def soleMember? (key : String) (members : List (String × Json)) : Option (Option Json) :=
  match members.filter fun m => m.1 == key with
  | [] => some none
  | [m] => some (some m.2)
  | _ => none

/-- The values of a record's fields, in the order of their names. -/
def fields? (names : List String) : Json → Option (List (Option Json))
  | .object members => names.mapM fun name => soleMember? name members
  | .array items =>
    if items.length ≤ names.length then
      some (items.map some ++ List.replicate (names.length - items.length) none)
    else none
  | _ => none

/-- A field that has to be there. -/
def required (read : Json → Option α) : Option Json → Option α
  | some v => read v
  | none => none

/-- A field with a default. -/
def defaulted (default : α) (read : Json → Option α) : Option Json → Option α
  | some v => read v
  | none => some default

/-- A field that may be left out or null. -/
def optional (read : Json → Option α) : Option Json → Option (Option α)
  | none => some none
  | some .null => some none
  | some v => (read v).map some

/-- A string. -/
def string? : Json → Option String
  | .string s => some s
  | _ => none

/-- A truth value. -/
def bool? : Json → Option Bool
  | .bool b => some b
  | _ => none

/-- A natural number below a bound, written plainly. -/
def natBelow? (bound : Nat) : Json → Option Nat
  | .number n => n.toNat?.bind fun k => if k < bound then some k else none
  | _ => none

/-- A list of values. -/
def list? (read : Json → Option α) : Json → Option (List α)
  | .array items => items.mapM read
  | _ => none

/-- The name of a choice: a string, or the key of the only member of an object whose value
`isEmpty` accepts. -/
def choiceName? (isEmpty : Json → Bool) : Json → Option String
  | .string s => some s
  | .object [(key, value)] => if isEmpty value then some key else none
  | _ => none

/-- Whether a value is null. -/
def isNull : Json → Bool
  | .null => true
  | _ => false

/-- Whether a value is null or an object without members. -/
def isVoid : Json → Bool
  | .null => true
  | .object [] => true
  | _ => false

/-- One of several named choices. -/
def choice? (isEmpty : Json → Bool) (choices : List (String × α)) (v : Json) : Option α :=
  (choiceName? isEmpty v).bind fun name => choices.lookup name

/-- The member of an optional field, left out when there is no value. -/
def memberIfSome (key : String) (write : α → Json) : Option α → List (String × Json)
  | some a => [(key, write a)]
  | none => []

/-- A value or null. -/
def orNull (write : α → Json) : Option α → Json
  | some a => write a
  | none => .null

end TestPlanner.Json
