import TestPlanner.Json.Basic

/-!
# Writing JSON

Values are written in two layouts: on one line, and with every item and member on a line of its
own, two spaces deeper than what holds it.

In strings, quotes, backslashes and control characters are escaped; five control characters have
short escapes and the others are written in four hexadecimal digits. All other characters stand for
themselves.
-/

set_option autoImplicit false

namespace TestPlanner.Json

/-- A digit below sixteen in lower-case hexadecimal. -/
def hexChar (n : Nat) : Char :=
  if n < 10 then Char.ofNat (n + 48) else Char.ofNat (n + 87)

/-- One character inside a string. -/
def escapeChar (c : Char) : List Char :=
  if c == '"' then ['\\', '"']
  else if c == '\\' then ['\\', '\\']
  else if c == '\n' then ['\\', 'n']
  else if c == '\r' then ['\\', 'r']
  else if c == '\t' then ['\\', 't']
  else if c == '\x08' then ['\\', 'b']
  else if c == '\x0c' then ['\\', 'f']
  else if c.toNat < 0x20 then ['\\', 'u', '0', '0', hexChar (c.toNat / 16), hexChar (c.toNat % 16)]
  else [c]

/-- A string in quotes. -/
def quoteChars (s : String) : List Char :=
  '"' :: (s.toList.flatMap escapeChar ++ ['"'])

/-- A number literal. -/
def Number.chars (n : Number) : List Char :=
  (if n.negative then ['-'] else []) ++ Nat.toDigits 10 n.digits ++
    (if n.whole then [] else 'e' :: (toString n.scale).toList)

mutual
/-- A value on one line. -/
def compactChars : Json → List Char
  | .null => "null".toList
  | .bool b => (if b then "true" else "false").toList
  | .number n => n.chars
  | .string s => quoteChars s
  | .unpaired => "null".toList
  | .array items => '[' :: compactItems items
  | .object members => '\x7b' :: compactMembers members

/-- The items of an array and its closing bracket. -/
def compactItems : List Json → List Char
  | [] => [']']
  | [v] => compactChars v ++ [']']
  | v :: vs => compactChars v ++ ',' :: compactItems vs

/-- The members of an object and its closing brace. -/
def compactMembers : List (String × Json) → List Char
  | [] => ['\x7d']
  | [m] => quoteChars m.1 ++ ':' :: (compactChars m.2 ++ ['\x7d'])
  | m :: ms => quoteChars m.1 ++ ':' :: (compactChars m.2 ++ ',' :: compactMembers ms)
end

/-- A value on one line. -/
def compact (v : Json) : String := String.ofList v.compactChars

/-- A line break and the indentation of a nesting level. -/
def newLine (level : Nat) : List Char := '\n' :: List.replicate (2 * level) ' '

mutual
/-- A value at a nesting level, laid out over lines. -/
def prettyChars (level : Nat) : Json → List Char
  | .null => "null".toList
  | .bool b => (if b then "true" else "false").toList
  | .number n => n.chars
  | .string s => quoteChars s
  | .unpaired => "null".toList
  | .array items =>
    if items.isEmpty then "[]".toList
    else '[' :: (prettyItems (level + 1) items ++ newLine level ++ [']'])
  | .object members =>
    if members.isEmpty then ['\x7b', '\x7d']
    else '\x7b' :: (prettyMembers (level + 1) members ++ newLine level ++ ['\x7d'])

/-- Items, each on its line, with commas between them. -/
def prettyItems (level : Nat) : List Json → List Char
  | [] => []
  | [v] => newLine level ++ prettyChars level v
  | v :: vs => newLine level ++ prettyChars level v ++ ',' :: prettyItems level vs

/-- Members, each on its line, with commas between them. -/
def prettyMembers (level : Nat) : List (String × Json) → List Char
  | [] => []
  | [m] => newLine level ++ quoteChars m.1 ++ ':' :: ' ' :: prettyChars level m.2
  | m :: ms =>
    newLine level ++ quoteChars m.1 ++ ':' :: ' ' :: prettyChars level m.2 ++
      ',' :: prettyMembers level ms
end

/-- A value laid out over lines. -/
def pretty (v : Json) : String := String.ofList (prettyChars 0 v)

end TestPlanner.Json
