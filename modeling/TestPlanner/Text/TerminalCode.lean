/-!
# Terminal codes

A text for a terminal may hold control characters and codes: sequences that start with an escape
character and set colours, move the cursor or carry strings. A text that is written to something
else is freed of them. What is left are the printable characters and, of the control characters,
tabs, line feeds, form feeds and carriage returns.

A code may be broken off: the text after it then starts with what would have ended the code.
-/

set_option autoImplicit false

namespace TestPlanner.Text

/-- Where in a code a character stands. -/
inductive CodePosition
  /-- outside codes -/
  | ground
  /-- after the escape character -/
  | escape
  /-- after a mark that the escape character and further marks may precede -/
  | intermediate
  /-- in a control sequence, after its bracket -/
  | sequence
  /-- in the parameters of a device control string -/
  | deviceHead
  /-- in a string that only its terminator ends -/
  | string
  /-- in a string that a bell ends as well -/
  | command
  deriving DecidableEq, Repr

namespace CodePosition

/-- Whether a control character is kept. -/
def isKeptControl (code : Nat) : Bool := code = 9 || code = 10 || code = 12 || code = 13

/-- Whether the byte of the one-byte string terminator occurs in a character's encoding. -/
def holdsTerminator (c : Char) : Bool := (String.utf8EncodeChar c).contains 0x9C

/-- The position after a character that is not kept. -/
def next (p : CodePosition) (c : Char) : CodePosition :=
  let code := c.toNat
  if code = 0x18 || code = 0x1A then .ground
  else if code = 0x1B then .escape
  else if code < 0x20 || code = 0x7F then
    if p = .command && code = 7 then .ground else p
  else if 0x80 ≤ code then
    if p = .string && holdsTerminator c then .ground else p
  else
    match p with
    | .ground => .ground
    | .escape =>
      if code < 0x30 then .intermediate
      else if c = '[' then .sequence
      else if c = ']' then .command
      else if c = 'P' then .deviceHead
      else if c = 'X' || c = '^' || c = '_' then .string
      else .ground
    | .intermediate => if code < 0x30 then .intermediate else .ground
    | .sequence => if code < 0x40 then .sequence else .ground
    | .deviceHead => if code < 0x40 then .deviceHead else .string
    | .string => .string
    | .command => .command

/-- Whether a character is kept. In strings nothing is; inside other codes, control characters that
are kept elsewhere are. -/
def keeps (p : CodePosition) (c : Char) : Bool :=
  let code := c.toNat
  match p with
  | .ground => isKeptControl code || (0x20 ≤ code && code != 0x7F)
  | .escape | .intermediate | .sequence => isKeptControl code
  | .deviceHead | .string | .command => false

end CodePosition

/-- A text without codes. After a character that is kept, the text goes on as outside codes until
the next that is not; `printing` tells whether the last character was kept. -/
def dropCodes (p : CodePosition) (printing : Bool) : List Char → List Char
  | [] => []
  | c :: s =>
    if printing then
      if CodePosition.ground.keeps c then
        c :: dropCodes (if 0x80 ≤ c.toNat then .ground else p) true s
      else dropCodes (p.next c) false s
    else if p.keeps c then c :: dropCodes p true s
    else dropCodes (p.next c) false s

/-- A string without terminal codes. -/
def withoutCodes (s : String) : String := String.ofList (dropCodes .ground false s.toList)

end TestPlanner.Text
