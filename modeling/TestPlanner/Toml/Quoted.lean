/-!
# TOML strings

A string is written in the plainest of TOML's forms that holds it. In order of preference:

1. double quotes, for a single line without double quotes, backslashes and control characters;
2. single quotes, for a single line without single quotes and control characters;
3. triple double quotes, if nothing in it needs an escape;
4. triple single quotes, if it has no control characters and no three single quotes in a row;
5. double quotes with escapes, triple if it has several lines.

A tab is no obstacle to any of these forms, but is escaped where escapes are possible. A text of
several lines starts on the line after its opening quotes.
-/

set_option autoImplicit false

namespace TestPlanner.Toml.Quoted

/-- The length of the longest run of a character, where the run at the front already has `current`
occurrences. -/
def longestRun (mark : Char) (current : Nat) : List Char → Nat
  | [] => current
  | c :: s =>
    if c == mark then longestRun mark (current + 1) s else max current (longestRun mark 0 s)

/-- The control characters that no form holds without an escape. -/
def needsEscape (c : Char) : Bool :=
  (c.toNat < 0x20 && c != '\t' && c != '\n') || c.toNat == 0x7F

/-- A digit below sixteen in upper-case hexadecimal. -/
def hexChar (n : Nat) : Char :=
  if n < 10 then Char.ofNat (n + 48) else Char.ofNat (n + 55)

/-- A character other than a double quote inside double quotes. -/
def escapeChar (multiline : Bool) (c : Char) : List Char :=
  if c == '\x08' then ['\\', 'b']
  else if c == '\t' then ['\\', 't']
  else if c == '\n' then (if multiline then [c] else ['\\', 'n'])
  else if c == '\x0c' then ['\\', 'f']
  else if c == '\r' then ['\\', 'r']
  else if c == '\\' then ['\\', '\\']
  else if c.toNat < 0x20 || c.toNat == 0x7F then
    ['\\', 'u', '0', '0', hexChar (c.toNat / 16), hexChar (c.toNat % 16)]
  else [c]

/-- A text inside double quotes after `quotes` double quotes in a row. On several lines two in a
row may stand as they are; otherwise none may. -/
def escapeFrom (multiline : Bool) (quotes : Nat) : List Char → List Char
  | [] => []
  | c :: s =>
    if c == '"' then
      if multiline && quotes < 2 then c :: escapeFrom multiline (quotes + 1) s
      else '\\' :: c :: escapeFrom multiline 0 s
    else escapeChar multiline c ++ escapeFrom multiline 0 s

/-- A text between quotes, on lines of its own if it has several. -/
def between (quotes : List Char) (severalLines : Bool) (body : List Char) : List Char :=
  quotes ++ (if severalLines then ['\n'] else []) ++ body ++ quotes

/-- The written form of a text. -/
def encode (s : List Char) : List Char :=
  let control := s.any needsEscape
  let backslash := s.contains '\\'
  let severalLines := s.contains '\n'
  let doubles := longestRun '"' 0 s
  let singles := longestRun '\'' 0 s
  let tripleDouble : List Char := ['"', '"', '"']
  let tripleSingle : List Char := ['\'', '\'', '\'']
  if !control && !backslash && doubles == 0 && !severalLines then
    between ['"'] false (escapeFrom false 0 s)
  else if !control && singles == 0 && !severalLines then between ['\''] false s
  else if !control && !backslash && doubles ≤ 2 then
    between tripleDouble severalLines (escapeFrom true 0 s)
  else if !control && singles ≤ 2 then between tripleSingle severalLines s
  else if severalLines then between tripleDouble true (escapeFrom true 0 s)
  else between ['"'] false (escapeFrom false 0 s)

end TestPlanner.Toml.Quoted
