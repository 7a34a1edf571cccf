import TestPlanner.Decimal

/-!
# JSON values

The value of a JSON text. Objects keep their members in the order of the text, repetitions
included, so that a reader can refuse a repeated key. Numbers keep their literal as an exact decimal
and remember whether it had a fraction or an exponent.

A text may hold a string with an unpaired surrogate escape. Such a string is well formed but stands
for no text; it is read as `unpaired`, and so is an object with such a key. A reader that skips a
member does not look at its value, so only values that are used need to be free of these.
-/

set_option autoImplicit false

namespace TestPlanner

/-- A number literal: `digits · 10 ^ scale`, with its sign, and whether the literal was a whole
number without fraction and exponent. -/
structure Json.Number where
  negative : Bool
  digits : Nat
  scale : Int
  whole : Bool
  deriving DecidableEq, Repr, Inhabited

/-- A JSON value. -/
inductive Json where
  | null
  | bool (b : Bool)
  | number (n : Json.Number)
  | string (s : String)
  | array (items : List Json)
  | object (members : List (String × Json))
  | unpaired
  deriving Repr, Inhabited

namespace Json

/-- The number literal of a natural number. -/
def Number.ofNat (n : Nat) : Number := ⟨false, n, 0, true⟩

/-- The value of a natural number. -/
def nat (n : Nat) : Json := .number (.ofNat n)

/-- The natural number that a literal writes plainly, with no sign. -/
def Number.toNat? (n : Number) : Option Nat :=
  if n.whole && !n.negative then some n.digits else none

/-- Whether a number is too large for a double. -/
def Number.overflows (n : Number) : Bool := Decimal.overflows n.digits n.scale

mutual
/-- How deep arrays and objects are nested. -/
def depth : Json → Nat
  | .array items => depthItems items + 1
  | .object members => depthMembers members + 1
  | _ => 0

/-- The greatest depth among items. -/
def depthItems : List Json → Nat
  | [] => 0
  | v :: vs => max (depth v) (depthItems vs)

/-- The greatest depth among members. -/
def depthMembers : List (String × Json) → Nat
  | [] => 0
  | m :: ms => max (depth m.2) (depthMembers ms)
end

mutual
/-- Whether every string of a value stands for text and no number overflows. -/
def exact : Json → Bool
  | .unpaired => false
  | .number n => !n.overflows
  | .array items => exactItems items
  | .object members => exactMembers members
  | _ => true

/-- Whether all items are exact. -/
def exactItems : List Json → Bool
  | [] => true
  | v :: vs => exact v && exactItems vs

/-- Whether all members are exact. -/
def exactMembers : List (String × Json) → Bool
  | [] => true
  | m :: ms => exact m.2 && exactMembers ms
end

/-- How deep a value may be nested to be held as a whole. -/
def depthLimit : Nat := 127

/-- Whether a value can be held as a whole: it is exact and not nested too deeply. -/
def holdable (v : Json) : Bool :=
  v.exact && v.depth ≤ depthLimit

end Json

end TestPlanner
