import TestPlanner.Files.Workspace
import TestPlanner.Shell.Sum

/-!
# Tests

The conditions that the program `test` decides: on files, on texts and on numbers, joined by `!`,
`-a`, `-o` and parentheses. A word is taken for an operator only where one can stand.
-/

set_option autoImplicit false

namespace TestPlanner.Shell.Test

open Files (Workspace)

/-- The operators in front of one operand. -/
def unary : List String :=
  ["-r", "-w", "-x", "-e", "-f", "-d", "-c", "-b", "-p", "-u", "-g", "-k", "-s", "-t", "-z", "-n",
    "-h", "-O", "-G", "-L", "-S"]

/-- The operators between two operands. -/
def binary : List String :=
  ["=", "!=", "<", ">", "-eq", "-ne", "-ge", "-gt", "-le", "-lt", "-nt", "-ot", "-ef"]

/-- Whether a word stands where only an operand can, given the words after it. -/
def isOperand : List String → Bool
  | [] => true
  | [_] => false
  | next :: _ => binary.contains next

/-- The number that a word writes. -/
def number (word : String) : Except String Int :=
  let s := word.toList.dropWhile fun c => c == ' ' || c == '\t' || c == '\n'
  let s := (s.reverse.dropWhile fun c => c == ' ' || c == '\t' || c == '\n').reverse
  let (negative, ds) := match s with
    | '-' :: ds => (true, ds)
    | '+' :: ds => (false, ds)
    | ds => (false, ds)
  if ds.isEmpty || !ds.all Char.isDigit then .error ("Illegal number: " ++ word)
  else
    let size : Int := ds.foldl (fun n d => n * 10 + (d.toNat - '0'.toNat)) 0
    let n := if negative then -size else size
    if Sum.least ≤ n && n ≤ Sum.greatest then .ok n else .error ("Illegal number: " ++ word)

/-- Whether a path leads to a device. -/
def isDevice (w : Workspace) (path : String) : Bool :=
  (w.locate path).toOption.any fun p => p.take 1 == ["dev"] && w.isFile path

/-- Whether a condition on one operand holds. -/
def holdsUnary (w : Workspace) (operator operand : String) : Bool :=
  match operator with
  | "-n" => !operand.isEmpty
  | "-z" => operand.isEmpty
  | "-f" => w.isFile operand && !isDevice w operand
  | "-d" => w.isDirectory operand
  | "-c" => isDevice w operand
  | "-s" =>
    match w.get? operand with
    | .ok (.file content) => content.size != 0
    | .ok .directory => true
    | .error _ => false
  | "-x" => w.isDirectory operand
  | operator => ["-r", "-w", "-e", "-O", "-G"].contains operator && w.has operand

/-- Whether a condition on two operands holds. -/
def holdsBinary (w : Workspace) (operator a b : String) : Except String Bool :=
  let compare (holds : Int → Int → Bool) : Except String Bool := do
    pure (holds (← number a) (← number b))
  match operator with
  | "=" => .ok (a == b)
  | "!=" => .ok (a != b)
  | "<" => .ok (a < b)
  | ">" => .ok (b < a)
  | "-eq" => compare fun m n => m == n
  | "-ne" => compare fun m n => m != n
  | "-ge" => compare fun m n => m ≥ n
  | "-gt" => compare fun m n => m > n
  | "-le" => compare fun m n => m ≤ n
  | "-lt" => compare fun m n => m < n
  | "-ef" => .ok (w.has a && (w.locate a).toOption == (w.locate b).toOption)
  | _ => .ok false

mutual
/-- Decides conditions of which one has to hold; also returns the words left. -/
def either (w : Workspace) : (fuel : Nat) → List String → Except String (Bool × List String)
  | 0, words => .ok (false, words)
  | fuel + 1, words => do
    let (a, rest) ← both w fuel words
    match rest with
    | "-o" :: rest =>
      let (b, rest) ← either w fuel rest
      pure (a || b, rest)
    | rest => pure (a, rest)

/-- Decides conditions that all have to hold. -/
def both (w : Workspace) : (fuel : Nat) → List String → Except String (Bool × List String)
  | 0, words => .ok (false, words)
  | fuel + 1, words => do
    let (a, rest) ← inverted w fuel words
    match rest with
    | "-a" :: rest =>
      let (b, rest) ← both w fuel rest
      pure (a && b, rest)
    | rest => pure (a, rest)

/-- Decides a condition that may be inverted. -/
def inverted (w : Workspace) : (fuel : Nat) → List String → Except String (Bool × List String)
  | 0, words => .ok (false, words)
  | fuel + 1, words =>
    match words with
    | "!" :: rest => (inverted w fuel rest).map fun r => (!r.1, r.2)
    | words => primary w fuel words

/-- Decides a condition without connectives. -/
def primary (w : Workspace) : (fuel : Nat) → List String → Except String (Bool × List String)
  | 0, words => .ok (false, words)
  | _, [] => .ok (false, [])
  | fuel + 1, word :: rest =>
    match word, rest with
    | "(", ")" :: rest => .ok (false, rest)
    | "(", next :: more => do
      let (a, rest) ← either w fuel (next :: more)
      match rest with
      | ")" :: rest => pure (a, rest)
      | _ => .error "closing paren expected"
    | word, rest =>
      if unary.contains word && !isOperand rest then do
        let operand := rest.headD ""
        if word == "-t" then let _ ← number operand
        pure (holdsUnary w word operand, rest.tail)
      else
        match rest with
        | operator :: after =>
          if binary.contains operator then
            match after with
            | b :: rest => do pure (← holdsBinary w operator word b, rest)
            | [] => .error (operator ++ ": argument expected")
          else .ok (!word.isEmpty, rest)
        | [] => .ok (!word.isEmpty, [])
end

/-- Decides the condition of some words. -/
def decides (w : Workspace) : (fuel : Nat) → List String → Except String Bool
  | 0, _ => .ok false
  | _, [] => .ok false
  | fuel + 1, words =>
    let whole (words : List String) : Except String Bool := do
      let (a, rest) ← either w (4 * words.length + 4) words
      if rest.isEmpty then pure a
      else
        let word := words.getD (words.length - rest.length - 1) ""
        .error ((if word.isEmpty then "" else word ++ ": ") ++ "unexpected operator")
    match words with
    | [a, operator, b] =>
      if binary.contains operator then holdsBinary w operator a b
      else if a == "(" && b == ")" then whole [operator]
      else if a == "!" then (decides w fuel [operator, b]).map not
      else whole words
    | [a, b, c, d] =>
      if a == "(" && d == ")" then whole [b, c]
      else if a == "!" then (decides w fuel [b, c, d]).map not
      else whole words
    | words => whole words

/-- What a call of the program comes to: whether the condition of its arguments holds. -/
def condition (w : Workspace) (name : String) (arguments : List String) : Except String Bool :=
  if name == "[" then
    if arguments.getLast?.any fun a => a.startsWith "]" then
      decides w (arguments.length + 1) arguments.dropLast
    else .error "missing ]"
  else decides w (arguments.length + 1) arguments

end TestPlanner.Shell.Test
