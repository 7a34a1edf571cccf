/-!
# UTF-8

Reading bytes as text. A strict reading refuses a sequence that is not UTF-8; a lossy reading puts
a replacement character for every maximal piece of a sequence that cannot be continued, and goes on
with the byte that broke it off.
-/

set_option autoImplicit false

namespace TestPlanner.Text.Utf8

/-- A character of which at least one byte is still owed: the number of bytes owed, the range of
the next one, and the value collected so far. -/
structure Pending where
  owed : Nat
  least : Nat
  greatest : Nat
  value : Nat

/-- What a byte does between characters. -/
inductive Lead where
  | whole (c : Char)
  | opening (p : Pending)
  | invalid

/-- Reads a byte between characters. The range of the second byte excludes overlong forms,
surrogates and values above the last code point. -/
def lead (b : Nat) : Lead :=
  if b < 0x80 then .whole (Char.ofNat b)
  else if b < 0xC2 then .invalid
  else if b < 0xE0 then .opening ⟨1, 0x80, 0xBF, b - 0xC0⟩
  else if b < 0xF0 then
    .opening ⟨2, if b == 0xE0 then 0xA0 else 0x80, if b == 0xED then 0x9F else 0xBF, b - 0xE0⟩
  else if b < 0xF5 then
    .opening ⟨3, if b == 0xF0 then 0x90 else 0x80, if b == 0xF4 then 0x8F else 0xBF, b - 0xF0⟩
  else .invalid

/-- The character that stands for bytes that are not text. -/
def replacement : Char := '\uFFFD'

/-- The characters that a byte between characters completes, and the state after it. -/
def start (b : Nat) : List Char × Option Pending :=
  match lead b with
  | .whole c => ([c], none)
  | .opening p => ([], some p)
  | .invalid => ([replacement], none)

/-- The characters that a byte completes, and the state after it. -/
def step (state : Option Pending) (b : Nat) : List Char × Option Pending :=
  match state with
  | none => start b
  | some p =>
    if p.least ≤ b && b ≤ p.greatest then
      let value := p.value * 64 + (b - 0x80)
      if p.owed ≤ 1 then ([Char.ofNat value], none)
      else ([], some ⟨p.owed - 1, 0x80, 0xBF, value⟩)
    else
      let (out, next) := start b
      (replacement :: out, next)

/-- The lossy reading of bytes from a state. -/
def lossyFrom (state : Option Pending) : List UInt8 → List Char
  | [] => if state.isSome then [replacement] else []
  | b :: s =>
    let (out, next) := step state b.toNat
    out ++ lossyFrom next s

/-- The lossy reading of bytes. -/
def lossy (bytes : ByteArray) : String :=
  match String.fromUTF8? bytes with
  | some s => s
  | none => String.ofList (lossyFrom none bytes.toList)

/-- The strict reading of bytes. -/
def decode? (bytes : ByteArray) : Option String :=
  String.fromUTF8? bytes

end TestPlanner.Text.Utf8
