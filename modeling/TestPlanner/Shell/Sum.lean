import TestPlanner.Shell.Syntax

/-!
# Sums

The arithmetic of scripts: numbers of 64 bits with a sign, and the variables of the script, which
a sum can also change. The operators and their order are those of C.
-/

set_option autoImplicit false

namespace TestPlanner.Shell.Sum

/-- A token of a sum. -/
inductive Token where
  | number (n : Int)
  | name (s : String)
  | sign (s : String)
  deriving DecidableEq, Repr

/-- The signs of two or three characters. -/
def longSigns : List String :=
  ["<<=", ">>=", "<<", ">>", "<=", ">=", "==", "!=", "&&", "||", "+=", "-=", "*=", "/=", "%=", "&=",
    "|=", "^="]

/-- The value of a digit in any base. -/
def digit (c : Char) : Nat :=
  if c.isDigit then c.toNat - '0'.toNat
  else if c.isLower then c.toNat - 'a'.toNat + 10
  else if c.isUpper then c.toNat - 'A'.toNat + 10
  else 99

/-- The least number of 64 bits with a sign. -/
def least : Int := -9223372036854775808

/-- The greatest number of 64 bits with a sign. -/
def greatest : Int := 9223372036854775807

/-- How many numbers 64 bits can hold. -/
def span : Nat := Nat.pow 2 64

/-- A number brought into the range of 64 bits. -/
def wrapped (n : Int) : Int := n.bmod span

/-- Whether a character may stand in front of a number. -/
def isBlank (c : Char) : Bool := c == ' ' || (9 ≤ c.toNat && c.toNat ≤ 13)

/-- The natural number that digits in a base write at the front of a text, and what follows. -/
def digits (base : Nat) (s : List Char) : Nat × List Char :=
  let ds := s.takeWhile fun c => digit c < base
  (ds.foldl (fun n c => n * base + digit c) 0, s.drop ds.length)

/-- The natural number at the front of a text: hexadecimal after `0x`, octal after a zero, and
otherwise decimal. -/
def natural (s : List Char) : Nat × List Char :=
  match s with
  | '0' :: x :: c :: rest =>
    if (x == 'x' || x == 'X') && digit c < 16 then digits 16 (c :: rest)
    else digits 8 ('0' :: x :: c :: rest)
  | '0' :: rest => digits 8 ('0' :: rest)
  | s => digits 10 s

/-- The number at the front of a text, no larger than 63 bits. -/
def number (s : List Char) : Int × List Char :=
  let (n, rest) := natural s
  (if greatest < n then greatest else n, rest)

/-- The tokens of a text. -/
def tokens : (fuel : Nat) → List Char → List Token
  | 0, _ => []
  | _, [] => []
  | fuel + 1, c :: s =>
    if c == ' ' || c == '\t' || c == '\n' then tokens fuel s
    else if c.isDigit then
      let (n, rest) := number (c :: s)
      .number n :: tokens fuel rest
    else if isNameChar c then
      let name := (c :: s).takeWhile isNameChar
      .name (String.ofList name) :: tokens fuel ((c :: s).drop name.length)
    else
      match longSigns.find? fun sign => sign.toList.isPrefixOf (c :: s) with
      | some sign => .sign sign :: tokens fuel ((c :: s).drop sign.length)
      | none => .sign c.toString :: tokens fuel s

/-- Why a sum has no value. -/
inductive Fault where
  | noOperand
  | noEnd
  | noColon
  | noParenthesis
  | zeroDivision
  | noNumber (text : String)
  deriving DecidableEq, Repr

/-- The fault of a sum in words. -/
def Fault.message (expression : String) : Fault → String
  | .noOperand => "arithmetic expression: expecting primary: \"" ++ expression ++ "\""
  | .noEnd => "arithmetic expression: expecting EOF: \"" ++ expression ++ "\""
  | .noColon => "arithmetic expression: expecting ':': \"" ++ expression ++ "\""
  | .noParenthesis => "arithmetic expression: expecting ')': \"" ++ expression ++ "\""
  | .zeroDivision => "arithmetic expression: division by zero: \"" ++ expression ++ "\""
  | .noNumber text => "Illegal number: " ++ text

/-- The variables that a sum reads and writes. -/
abbrev Values := List (String × String)

/-- The value of a variable. -/
def value (vs : Values) (name : String) : Except Fault Int :=
  let text := (vs.lookup name).getD ""
  let s := text.toList.dropWhile isBlank
  let (negative, s) := match s with
    | '-' :: s => (true, s)
    | '+' :: s => (false, s)
    | s => (false, s)
  if text.isEmpty then .ok 0
  else
    let (n, rest) := number s
    if !(s.headD ' ').isDigit || !rest.all isBlank then .error (.noNumber text)
    else .ok (if negative then -n else n)

/-- The binary operators, and how tightly they bind. -/
def binary : List (String × Nat) :=
  [("||", 1), ("&&", 2), ("|", 3), ("^", 4), ("&", 5), ("==", 6), ("!=", 6), ("<", 7), (">", 7),
    ("<=", 7), (">=", 7), ("<<", 8), (">>", 8), ("+", 9), ("-", 9), ("*", 10), ("/", 10), ("%", 10)]

/-- A truth value as a number. -/
def ofBool (b : Bool) : Int := if b then 1 else 0

/-- The bits of a number as a natural number. -/
def bits (n : Int) : Nat := (n % span).toNat

/-- Carries out an operator. -/
def apply (operator : String) (a b : Int) : Except Fault Int :=
  let result (n : Int) : Except Fault Int := .ok (wrapped n)
  match operator with
  | "||" => result (ofBool (a != 0 || b != 0))
  | "&&" => result (ofBool (a != 0 && b != 0))
  | "|" => result (bits a ||| bits b)
  | "^" => result (bits a ^^^ bits b)
  | "&" => result (bits a &&& bits b)
  | "==" => result (ofBool (a == b))
  | "!=" => result (ofBool (a != b))
  | "<" => result (ofBool (a < b))
  | ">" => result (ofBool (a > b))
  | "<=" => result (ofBool (a ≤ b))
  | ">=" => result (ofBool (a ≥ b))
  | "<<" => result (a * Nat.pow 2 (bits b % 64))
  | ">>" => result (a.fdiv (Nat.pow 2 (bits b % 64)))
  | "+" => result (a + b)
  | "-" => result (a - b)
  | "*" => result (a * b)
  | "/" => if b == 0 then .error .zeroDivision else result (a.tdiv b)
  | "%" => if b == 0 then .error .zeroDivision else result (a.tmod b)
  | _ => .error .noOperand

/-- What is known while a sum is worked out: the tokens left and the variables. -/
structure Progress where
  tokens : List Token
  values : Values

/-- Assigns a number to a variable, where the sum counts. -/
def Progress.assign (p : Progress) (counts : Bool) (name : String) (n : Int) : Progress :=
  if counts then
    { p with values := (name, toString n) :: p.values.filter fun v => !(v.1 == name) }
  else p

/-- The result of an operator where the sum counts; elsewhere zero. -/
def applyIf (counts : Bool) (operator : String) (a b : Int) : Except Fault Int :=
  if counts then apply operator a b else .ok 0

mutual
/-- Works out an assignment or a choice. -/
def assignment (counts : Bool) : (fuel : Nat) → Progress → Except Fault (Int × Progress)
  | 0, _ => .error .noOperand
  | fuel + 1, p =>
    match p.tokens with
    | .name name :: .sign "=" :: rest => do
      let (n, p) ← assignment counts fuel { p with tokens := rest }
      pure (n, p.assign counts name n)
    | .name name :: .sign sign :: rest =>
      let operator := String.ofList sign.toList.dropLast
      if sign.endsWith "=" && (binary.lookup sign).isNone && (binary.lookup operator).isSome then do
        let old ← value p.values name
        let (n, p) ← assignment counts fuel { p with tokens := rest }
        let n ← applyIf counts operator old n
        pure (n, p.assign counts name n)
      else choice counts fuel p
    | _ => choice counts fuel p

/-- Works out a choice with a question mark and a colon, or a sum without one. -/
def choice (counts : Bool) : (fuel : Nat) → Progress → Except Fault (Int × Progress)
  | 0, _ => .error .noOperand
  | fuel + 1, p => do
    let (n, p) ← operations counts fuel 1 p
    match p.tokens with
    | .sign "?" :: rest =>
      let (a, p) ← assignment (counts && n != 0) fuel { p with tokens := rest }
      match p.tokens with
      | .sign ":" :: rest =>
        let (b, p) ← choice (counts && n == 0) fuel { p with tokens := rest }
        pure (if n != 0 then a else b, p)
      | _ => .error .noColon
    | _ => pure (n, p)

/-- Works out operators that bind at least so tightly. -/
def operations (counts : Bool) : (fuel : Nat) → (least : Nat) → Progress →
    Except Fault (Int × Progress)
  | 0, _, _ => .error .noOperand
  | fuel + 1, least, p => do
    let (n, p) ← operand counts fuel p
    operationsAfter counts fuel least n p

/-- Works out the operators after a first operand. -/
def operationsAfter (counts : Bool) : (fuel : Nat) → (least : Nat) → Int → Progress →
    Except Fault (Int × Progress)
  | 0, _, n, p => .ok (n, p)
  | fuel + 1, least, a, p =>
    match p.tokens with
    | .sign sign :: rest =>
      match binary.lookup sign with
      | some tightness =>
        if tightness < least then .ok (a, p)
        else do
          let counted := counts && !(sign == "||" && a != 0) && !(sign == "&&" && a == 0)
          let (b, p) ← operations counted fuel (tightness + 1) { p with tokens := rest }
          let n ← applyIf counts sign a b
          operationsAfter counts fuel least n p
      | none => .ok (a, p)
    | _ => .ok (a, p)

/-- Works out an operand. -/
def operand (counts : Bool) : (fuel : Nat) → Progress → Except Fault (Int × Progress)
  | 0, _ => .error .noOperand
  | fuel + 1, p =>
    match p.tokens with
    | .number n :: rest => .ok (n, { p with tokens := rest })
    | .name name :: rest => do
      let n ← if counts then value p.values name else .ok 0
      pure (n, { p with tokens := rest })
    | .sign "(" :: rest => do
      let (n, p) ← assignment counts fuel { p with tokens := rest }
      match p.tokens with
      | .sign ")" :: rest => pure (n, { p with tokens := rest })
      | _ => .error .noParenthesis
    | .sign sign :: rest => do
      if ["-", "+", "!", "~"].contains sign then
        let (n, p) ← operand counts fuel { p with tokens := rest }
        let r := match sign with
          | "-" => -n
          | "!" => ofBool (n == 0)
          | "~" => -n - 1
          | _ => n
        pure (wrapped r, p)
      else .error .noOperand
    | [] => .error .noOperand
end

/-- The value of a sum, and the variables after it. -/
def evaluate (expression : List Char) (values : Values) : Except Fault (Int × Values) := do
  let ts := tokens (expression.length + 1) expression
  let (n, p) ← assignment true (20 * ts.length + 20) ⟨ts, values⟩
  if p.tokens.isEmpty then pure (n, p.values) else .error .noEnd

end TestPlanner.Shell.Sum
