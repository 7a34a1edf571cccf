import TestPlanner.Json.Basic

/-!
# Reading JSON

A strict reader of JSON text: one value with blanks around it and nothing after it, no byte order
mark, no trailing commas, no leading zeros, and no control characters inside strings.

A string is read in two steps. First its pieces are found, characters and sixteen-bit units from
numeric escapes; then the units are paired into characters. The second step is where an unpaired
surrogate shows.
-/

set_option autoImplicit false

namespace TestPlanner.Json

/-- The four characters that may stand between tokens. -/
def isSpace (c : Char) : Bool :=
  c == ' ' || c == '\n' || c == '\t' || c == '\r'

/-- A text without its leading blanks. -/
def skipSpace (s : List Char) : List Char := s.dropWhile isSpace

/-! ## Strings -/

/-- A piece of a string: a character, or a unit from a numeric escape. -/
inductive Piece where
  | char (c : Char)
  | unit (n : Nat)
  deriving DecidableEq, Repr

/-- The value of a hexadecimal digit. -/
def hexDigit? (c : Char) : Option Nat :=
  if '0' ≤ c && c ≤ '9' then some (c.toNat - '0'.toNat)
  else if 'a' ≤ c && c ≤ 'f' then some (c.toNat - 'a'.toNat + 10)
  else if 'A' ≤ c && c ≤ 'F' then some (c.toNat - 'A'.toNat + 10)
  else none

/-- The value of four hexadecimal digits. -/
def hex4? (a b c d : Char) : Option Nat := do
  let a ← hexDigit? a
  let b ← hexDigit? b
  let c ← hexDigit? c
  let d ← hexDigit? d
  pure (((a * 16 + b) * 16 + c) * 16 + d)

/-- The character that a short escape stands for. -/
def shortEscape? (c : Char) : Option Char :=
  if c == '"' || c == '\\' || c == '/' then some c
  else if c == 'b' then some '\x08'
  else if c == 'f' then some '\x0c'
  else if c == 'n' then some '\n'
  else if c == 'r' then some '\r'
  else if c == 't' then some '\t'
  else none

/-- Reads the pieces of a string up to its closing quote. -/
def pieces? : List Char → Option (List Piece × List Char)
  | [] => none
  | '\\' :: 'u' :: a :: b :: c :: d :: s => do
    let n ← hex4? a b c d
    let (ps, rest) ← pieces? s
    pure (.unit n :: ps, rest)
  | '\\' :: e :: s => do
    let c ← shortEscape? e
    let (ps, rest) ← pieces? s
    pure (.char c :: ps, rest)
  | c :: s =>
    if c == '"' then some ([], s)
    else if c == '\\' || c.toNat < 0x20 then none
    else (pieces? s).map fun r => (.char c :: r.1, r.2)

/-- Whether a unit is the first of a surrogate pair. -/
def isHighSurrogate (n : Nat) : Bool := 0xD800 ≤ n && n ≤ 0xDBFF

/-- Whether a unit is the second of a surrogate pair. -/
def isLowSurrogate (n : Nat) : Bool := 0xDC00 ≤ n && n ≤ 0xDFFF

/-- The characters that pieces stand for, unless a surrogate is unpaired. -/
def joinPieces? : List Piece → Option (List Char)
  | [] => some []
  | .char c :: ps => (joinPieces? ps).map (c :: ·)
  | .unit n :: ps =>
    if isLowSurrogate n then none
    else if isHighSurrogate n then
      match ps with
      | .unit m :: rest =>
        if isLowSurrogate m then
          (joinPieces? rest).map
            (Char.ofNat (0x10000 + (n - 0xD800) * 0x400 + (m - 0xDC00)) :: ·)
        else none
      | _ => none
    else (joinPieces? ps).map (Char.ofNat n :: ·)

/-- Reads the rest of a string after its opening quote: the text, if it stands for one, and what
follows the closing quote. -/
def readString? (s : List Char) : Option (Option String × List Char) :=
  (pieces? s).map fun r => ((joinPieces? r.1).map String.ofList, r.2)

/-! ## Numbers -/

/-- Whether a character is a decimal digit. -/
def isDigit (c : Char) : Bool := '0' ≤ c && c ≤ '9'

/-- The number that digits write, continued from `n`. -/
def digitsValue (n : Nat) (ds : List Char) : Nat :=
  ds.foldl (fun n d => n * 10 + (d.toNat - '0'.toNat)) n

/-- Reads an exponent, if there is one: its value and what follows. -/
def readExponent? : List Char → Option (Option Int × List Char)
  | [] => some (none, [])
  | c :: s =>
    if c == 'e' || c == 'E' then
      let (negative, s) := match s with
        | '-' :: s => (true, s)
        | '+' :: s => (false, s)
        | s => (false, s)
      let ds := s.takeWhile isDigit
      if ds.isEmpty then none
      else
        let n : Int := digitsValue 0 ds
        some (some (if negative then -n else n), s.dropWhile isDigit)
    else some (none, c :: s)

/-- Reads a fraction, if there is one: its digits and what follows. -/
def readFraction? : List Char → Option (Option (List Char) × List Char)
  | '.' :: s =>
    let ds := s.takeWhile isDigit
    if ds.isEmpty then none else some (some ds, s.dropWhile isDigit)
  | s => some (none, s)

/-- Reads a number after its sign. A leading zero stands alone. -/
def readNumber? (negative : Bool) (s : List Char) : Option (Number × List Char) := do
  let ds := s.takeWhile isDigit
  if ds.isEmpty || (ds.length > 1 && ds.head? == some '0') then none
  else
    let (fraction, s) ← readFraction? (s.dropWhile isDigit)
    let (exponent, s) ← readExponent? s
    let places := fraction.getD []
    pure (⟨negative, digitsValue (digitsValue 0 ds) places,
      exponent.getD 0 - places.length, fraction.isNone && exponent.isNone⟩, s)

/-! ## Values -/

/-- An object of members whose keys may be unpaired. -/
def objectOf (members : List (Option String × Json)) : Json :=
  match members.mapM fun m => m.1.map fun k => (k, m.2) with
  | some ms => .object ms
  | none => .unpaired

/-- The rest of a text after a word. -/
def afterWord? : (word s : List Char) → Option (List Char)
  | [], s => some s
  | w :: word, c :: s => if w == c then afterWord? word s else none
  | _ :: _, [] => none

mutual
/-- Reads a value after blanks. -/
def readValue? : Nat → List Char → Option (Json × List Char)
  | 0, _ => none
  | fuel + 1, s =>
    match skipSpace s with
    | [] => none
    | c :: s =>
      if c == '"' then
        (readString? s).map fun r => ((r.1.map Json.string).getD .unpaired, r.2)
      else if c == '[' then
        match skipSpace s with
        | ']' :: rest => some (.array [], rest)
        | s => (readItems? fuel s).map fun r => (.array r.1, r.2)
      else if c == '\x7b' then
        match skipSpace s with
        | '\x7d' :: rest => some (.object [], rest)
        | s => (readMembers? fuel s).map fun r => (objectOf r.1, r.2)
      else if c == '-' then
        (readNumber? true s).map fun r => (.number r.1, r.2)
      else if isDigit c then
        (readNumber? false (c :: s)).map fun r => (.number r.1, r.2)
      else if c == 'n' then (afterWord? "ull".toList s).map fun rest => (.null, rest)
      else if c == 't' then (afterWord? "rue".toList s).map fun rest => (.bool true, rest)
      else if c == 'f' then (afterWord? "alse".toList s).map fun rest => (.bool false, rest)
      else none

/-- Reads the items of an array up to its closing bracket; there is at least one. -/
def readItems? : Nat → List Char → Option (List Json × List Char)
  | 0, _ => none
  | fuel + 1, s => do
    let (v, s) ← readValue? fuel s
    match skipSpace s with
    | ',' :: s =>
      let (vs, rest) ← readItems? fuel s
      pure (v :: vs, rest)
    | ']' :: rest => pure ([v], rest)
    | _ => none

/-- Reads the members of an object up to its closing brace; there is at least one. -/
def readMembers? : Nat → List Char → Option (List (Option String × Json) × List Char)
  | 0, _ => none
  | fuel + 1, s => do
    match skipSpace s with
    | '"' :: s =>
      let (k, s) ← readString? s
      match skipSpace s with
      | ':' :: s =>
        let (v, s) ← readValue? fuel s
        match skipSpace s with
        | ',' :: s =>
          let (ms, rest) ← readMembers? fuel s
          pure ((k, v) :: ms, rest)
        | '\x7d' :: rest => pure ([(k, v)], rest)
        | _ => none
      | _ => none
    | _ => none
end

/-- Reads a text as one value. The reader takes at least one character for every two of its
nested calls, so the fuel suffices for every text. -/
def parseChars? (s : List Char) : Option Json :=
  match readValue? (2 * s.length + 2) s with
  | some (v, rest) => if (skipSpace rest).isEmpty then some v else none
  | none => none

/-- Reads a string as one value. -/
def parse? (text : String) : Option Json := parseChars? text.toList

end TestPlanner.Json
