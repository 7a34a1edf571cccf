/-!
# Decimal literals and doubles

A decimal literal is an exact number, `digits · 10 ^ scale`. A double holds it only if it does not
round beyond the largest double.
-/

set_option autoImplicit false

namespace TestPlanner.Decimal

/-- The least magnitude that rounds beyond the largest double: half a unit in the last place
above it. -/
def doubleLimit : Nat := Nat.pow 2 1024 - Nat.pow 2 970

/-- Whether a literal is too large for a double. Literals that are clearly too large or small are
told apart by their number of digits. -/
def overflows (digits : Nat) (scale : Int) : Bool :=
  if digits == 0 then false
  else
    let magnitude : Int := (Nat.toDigits 10 digits).length + scale
    if magnitude > 310 then true
    else if magnitude < 300 then false
    else if scale ≥ 0 then digits * Nat.pow 10 scale.toNat ≥ doubleLimit
    else digits ≥ doubleLimit * Nat.pow 10 (-scale).toNat

end TestPlanner.Decimal
