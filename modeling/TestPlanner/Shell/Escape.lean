/-!
# Escapes

Characters that are written with a backslash: control characters by letters and bytes by their
octal or hexadecimal digits. `\c` ends all output. Any other backslash stands for itself.
-/

set_option autoImplicit false

namespace TestPlanner.Shell

/-- The bytes of a text. -/
def bytesOf (s : String) : List UInt8 := s.toUTF8.toList

/-- Whether a character is an octal digit. -/
def isOctal (c : Char) : Bool := '0' ≤ c && c ≤ '7'

/-- The byte that octal digits write. -/
def octalByte (ds : List Char) : UInt8 :=
  UInt8.ofNat (ds.foldl (fun n d => n * 8 + (d.toNat - '0'.toNat)) 0)

/-- The character that a letter stands for after a backslash. -/
def escaped? (c : Char) : Option Char :=
  [('a', '\x07'), ('b', '\x08'), ('e', '\x1b'), ('f', '\x0c'), ('n', '\n'), ('r', '\r'),
    ('t', '\t'), ('v', '\x0b'), ('\\', '\\')].lookup c

/-- Up to so many octal digits at the front of a text. -/
def octalDigits (limit : Nat) (s : List Char) : List Char := (s.take limit).takeWhile isOctal

/-- Whether a character is a hexadecimal digit. -/
def isHex (c : Char) : Bool := c.isDigit || ('a' ≤ c && c ≤ 'f') || ('A' ≤ c && c ≤ 'F')

/-- The byte that hexadecimal digits write. -/
def hexByte (ds : List Char) : UInt8 :=
  UInt8.ofNat (ds.foldl (fun n d =>
    n * 16 + (if d.isDigit then d.toNat - '0'.toNat else d.toLower.toNat - 'a'.toNat + 10)) 0)

/-- A text with its escapes replaced, and whether output goes on after it. An octal escape may start
with a zero more than its three digits; hexadecimal escapes are replaced only if asked for. -/
def unescape (hexToo : Bool) : List Char → List UInt8 × Bool
  | [] => ([], true)
  | '\\' :: 'c' :: _ => ([], false)
  | '\\' :: '0' :: s =>
    let ds := octalDigits 3 s
    let (rest, goesOn) := unescape hexToo (s.drop ds.length)
    (octalByte ds :: rest, goesOn)
  | '\\' :: c :: s =>
    let hex := if hexToo && c == 'x' then (s.take 2).takeWhile isHex else []
    let ds := octalDigits 3 (c :: s)
    if !hex.isEmpty then
      let (rest, goesOn) := unescape hexToo (s.drop hex.length)
      (hexByte hex :: rest, goesOn)
    else if ds.isEmpty then
      let (rest, goesOn) := unescape hexToo s
      match escaped? c with
      | some e => (bytesOf e.toString ++ rest, goesOn)
      | none => (bytesOf (String.ofList ['\\', c]) ++ rest, goesOn)
    else
      let (rest, goesOn) := unescape hexToo (s.drop (ds.length - 1))
      (octalByte ds :: rest, goesOn)
  | c :: s =>
    let (rest, goesOn) := unescape hexToo s
    (bytesOf c.toString ++ rest, goesOn)
termination_by s => s.length
decreasing_by all_goals (simp only [List.length_cons, List.length_drop]; omega)

end TestPlanner.Shell
