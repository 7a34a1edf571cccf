import TestPlanner.Text.CaseData
import TestPlanner.Text.Ranges

/-!
# Letter case

Lower-casing a text maps each character by Unicode's lower-case mapping. Two characters need more
than a table of single characters: capital I with a dot gives two characters, and a capital sigma
at the end of a word takes its final form. Upper-casing is needed for single characters only, where
ligatures and a few letters give several.

On ASCII letters both maps shift the code point by 32, and that case is decided first.
-/

set_option autoImplicit false

namespace TestPlanner.Text

/-- The ASCII letters A to Z. -/
def isAsciiUpper (c : Char) : Bool := 'A' ≤ c && c ≤ 'Z'

/-- The ASCII letters a to z. -/
def isAsciiLower (c : Char) : Bool := 'a' ≤ c && c ≤ 'z'

/-- The ASCII digits. -/
def isAsciiDigit (c : Char) : Bool := '0' ≤ c && c ≤ '9'

/-- The ASCII letters. -/
def isAsciiLetter (c : Char) : Bool := isAsciiUpper c || isAsciiLower c

/-- The ASCII letters and digits. -/
def isAsciiAlphanumeric (c : Char) : Bool := isAsciiLetter c || isAsciiDigit c

/-- The small form of an ASCII letter; any other character as it is. -/
def asciiLower (c : Char) : Char :=
  if isAsciiUpper c then Char.ofNat (c.toNat + 32) else c

/-- The capital form of an ASCII letter; any other character as it is. -/
def asciiUpper (c : Char) : Char :=
  if isAsciiLower c then Char.ofNat (c.toNat - 32) else c

/-- Letters that have case. -/
def isCased (c : Char) : Bool := inRanges casedRanges c.toNat

/-- Marks that do not interrupt a word for the rule of the final sigma. -/
def isCaseIgnorable (c : Char) : Bool := inRanges caseIgnorableRanges c.toNat

/-- The code point shifted by the run that holds it. -/
def shiftByRuns (runs : List CaseRun) (c : Char) : Char :=
  match runs.find? fun r => r.contains c.toNat with
  | some r => Char.ofNat (c.toNat + r.shift).toNat
  | none => c

/-- The lower-case mapping of one character, a sigma taken as not final. -/
def lowerChar (c : Char) : List Char :=
  if c.toNat < 0x80 then [asciiLower c]
  else if c == 'İ' then ['i', '\u0307']
  else [shiftByRuns lowerRuns c]

/-- The upper-case mapping of one character. -/
def upperChar (c : Char) : List Char :=
  if c.toNat < 0x80 then [asciiUpper c]
  else match upperExpansions.find? fun e => e.1 == c.toNat with
    | some e => e.2.map Char.ofNat
    | none => [shiftByRuns upperRuns c]

/-- Whether the first character that is not ignored has case. -/
def startsCased (s : List Char) : Bool :=
  match s.dropWhile isCaseIgnorable with
  | c :: _ => isCased c
  | [] => false

/-- Lower-cases a text that follows the characters `before`, given in reverse. -/
def lowerAfter (before : List Char) : List Char → List Char
  | [] => []
  | c :: s =>
    (if c == 'Σ' && startsCased before && !startsCased s then ['ς'] else lowerChar c)
      ++ lowerAfter (c :: before) s

/-- The text in lower case. -/
def lower (s : List Char) : List Char := lowerAfter [] s

/-- A string in lower case. -/
def lowered (s : String) : String := String.ofList (lower s.toList)

/-- The text with its first character in upper case. -/
def capitalizeFirst : List Char → List Char
  | [] => []
  | c :: s => upperChar c ++ s

/-- The text with its first character in lower case. -/
def lowerFirst : List Char → List Char
  | [] => []
  | c :: s => lowerChar c ++ s

end TestPlanner.Text
