/-!
# Single-quoted script literals

The body of a single-quoted string literal in the generated scripts. Four characters are escaped: a
backslash, a single quote, a line feed and a carriage return. Everything else stands for itself, so
an encoded text has no line break and no quote that would close the literal.

`scan` reads such a literal back from the front of a text, up to its closing quote.
-/

set_option autoImplicit false

namespace TestPlanner.Text.Quoted

/-- The escaped form of one character. -/
def encodeChar (c : Char) : List Char :=
  if c == '\\' then ['\\', '\\']
  else if c == '\'' then ['\\', '\'']
  else if c == '\n' then ['\\', 'n']
  else if c == '\r' then ['\\', 'r']
  else [c]

/-- The body of the literal that stands for a text. -/
def encode (s : List Char) : List Char :=
  s.flatMap encodeChar

/-- A string escaped for a single-quoted literal. -/
def escaped (s : String) : String :=
  String.ofList (encode s.toList)

/-- The whole literal that stands for a string. -/
def literal (s : String) : String :=
  "'" ++ escaped s ++ "'"

/-- The character that an escape stands for. -/
def unescape? (c : Char) : Option Char :=
  if c == '\\' then some '\\'
  else if c == '\'' then some '\''
  else if c == 'n' then some '\n'
  else if c == 'r' then some '\r'
  else none

/-- Reads the body of a literal up to its closing quote. The result is the text it stands for and
what follows the quote; a raw line break, an unknown escape or a missing quote is refused. -/
def scanBody : List Char → Option (List Char × List Char)
  | [] => none
  | '\\' :: [] => none
  | '\\' :: e :: s => do
    let c ← unescape? e
    let (body, rest) ← scanBody s
    pure (c :: body, rest)
  | c :: s =>
    if c == '\'' then some ([], s)
    else if c == '\n' || c == '\r' then none
    else (scanBody s).map fun r => (c :: r.1, r.2)

/-- Reads a whole literal from the front of a text. -/
def scan : List Char → Option (List Char × List Char)
  | '\'' :: s => scanBody s
  | _ => none

end TestPlanner.Text.Quoted
