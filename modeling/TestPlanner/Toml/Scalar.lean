import TestPlanner.Decimal
import TestPlanner.Toml.Basic

/-!
# Reading TOML scalars

Strings, numbers, dates and keys, each read from the front of a text together with what follows it.

**Strings.** A string stands between double quotes, where escapes count, or single quotes, where
they do not; three quotes in a row let it run over several lines, and a line break right after them
is dropped. Up to two quotes may stand directly before the closing three.

**Dates.** A date, a time of day, or both, in which case an offset may follow. A date that is
followed by a space and no time stands alone.
-/

set_option autoImplicit false

namespace TestPlanner.Toml

/-! ## Characters -/

/-- Whether a character may stand between tokens of a line. -/
def isSpace (c : Char) : Bool := c == ' ' || c == '\t'

/-- Whether a character may stand on a line: a tab, or anything that is no control character. -/
def isLineChar (c : Char) : Bool := c == '\t' || (0x20 ≤ c.toNat && c.toNat != 0x7F)

/-- Whether a character is a decimal digit. -/
def isDigit (c : Char) : Bool := '0' ≤ c && c ≤ '9'

/-- The value of a digit in the bases up to sixteen. -/
def digitValue? (c : Char) : Option Nat :=
  if isDigit c then some (c.toNat - '0'.toNat)
  else if 'a' ≤ c && c ≤ 'f' then some (c.toNat - 'a'.toNat + 10)
  else if 'A' ≤ c && c ≤ 'F' then some (c.toNat - 'A'.toNat + 10)
  else none

/-- Whether a character is a digit of a base. -/
def isDigitOf (base : Nat) (c : Char) : Bool :=
  match digitValue? c with
  | some n => n < base
  | none => false

/-- The number that digits write. -/
def digitsValue (base : Nat) (ds : List Char) : Nat :=
  ds.foldl (fun n d => n * base + (digitValue? d).getD 0) 0

/-- A text without its leading spaces. -/
def skipSpace (s : List Char) : List Char := s.dropWhile isSpace

/-- The text after the line break in front. -/
def lineBreak? : List Char → Option (List Char)
  | '\n' :: s => some s
  | '\r' :: '\n' :: s => some s
  | _ => none

/-! ## Strings -/

/-- The character of a code point written in hexadecimal digits. -/
def codePoint? (ds : List Char) : Option Char :=
  if ds.all (isDigitOf 16) then
    let n := digitsValue 16 ds
    if n.isValidChar then some (Char.ofNat n) else none
  else none

/-- The character that a short escape stands for. -/
def shortEscape? (c : Char) : Option Char :=
  if c == '"' || c == '\\' then some c
  else if c == 'b' then some '\x08'
  else if c == 'f' then some '\x0c'
  else if c == 'n' then some '\n'
  else if c == 'r' then some '\r'
  else if c == 't' then some '\t'
  else none

/-- Puts a character in front of a text that was read. -/
def keep (c : Char) (r : List Char × List Char) : List Char × List Char := (c :: r.1, r.2)

/-- Reads a string on one line after its opening double quote. -/
def basicString? : List Char → Option (List Char × List Char)
  | [] => none
  | '\\' :: 'u' :: a :: b :: c :: d :: s => do
    let e ← codePoint? [a, b, c, d]
    (basicString? s).map (keep e)
  | '\\' :: 'U' :: a :: b :: c :: d :: e :: f :: g :: h :: s => do
    let x ← codePoint? [a, b, c, d, e, f, g, h]
    (basicString? s).map (keep x)
  | '\\' :: e :: s => do
    let c ← shortEscape? e
    (basicString? s).map (keep c)
  | c :: s =>
    if c == '"' then some ([], s)
    else if c != '\\' && isLineChar c then (basicString? s).map (keep c)
    else none

/-- Reads a string over several lines after its opening double quotes. In front of the text there
may be a line break that a backslash made void, with blanks and further line breaks after it; `void`
tells whether these are passed over. -/
def basicLines? (void : Bool) : List Char → Option (List Char × List Char)
  | [] => none
  | '"' :: '"' :: '"' :: '"' :: '"' :: s => some (['"', '"'], s)
  | '"' :: '"' :: '"' :: '"' :: s => some (['"'], s)
  | '"' :: '"' :: '"' :: s => some ([], s)
  | '\r' :: '\n' :: s =>
    if void then basicLines? true s else (basicLines? false s).map (keep '\n')
  | '\\' :: 'u' :: a :: b :: c :: d :: s => do
    let e ← codePoint? [a, b, c, d]
    (basicLines? false s).map (keep e)
  | '\\' :: 'U' :: a :: b :: c :: d :: e :: f :: g :: h :: s => do
    let x ← codePoint? [a, b, c, d, e, f, g, h]
    (basicLines? false s).map (keep x)
  | '\\' :: e :: s =>
    match shortEscape? e with
    | some c => (basicLines? false s).map (keep c)
    | none =>
      if (lineBreak? (skipSpace (e :: s))).isSome then basicLines? true (e :: s) else none
  | c :: s =>
    if void && (isSpace c || c == '\n') then basicLines? true s
    else if c == '\n' || (c != '\\' && isLineChar c) then (basicLines? false s).map (keep c)
    else none

/-- Reads a string on one line after its opening single quote. -/
def literalString? (s : List Char) : Option (List Char × List Char) :=
  let isBody (c : Char) : Bool := c != '\'' && isLineChar c
  match s.dropWhile isBody with
  | '\'' :: rest => some (s.takeWhile isBody, rest)
  | _ => none

/-- Reads a string over several lines after its opening single quotes. -/
def literalLines? : List Char → Option (List Char × List Char)
  | [] => none
  | '\'' :: '\'' :: '\'' :: '\'' :: '\'' :: s => some (['\'', '\''], s)
  | '\'' :: '\'' :: '\'' :: '\'' :: s => some (['\''], s)
  | '\'' :: '\'' :: '\'' :: s => some ([], s)
  | '\r' :: '\n' :: s => (literalLines? s).map (keep '\n')
  | c :: s => if c == '\n' || isLineChar c then (literalLines? s).map (keep c) else none

/-- A text without the line break in front, if there is one. -/
def dropLineBreak (s : List Char) : List Char := (lineBreak? s).getD s

/-- Reads a string of any form. -/
def string? : List Char → Option (List Char × List Char)
  | '"' :: '"' :: '"' :: s => basicLines? false (dropLineBreak s)
  | '"' :: s => basicString? s
  | '\'' :: '\'' :: '\'' :: s => literalLines? (dropLineBreak s)
  | '\'' :: s => literalString? s
  | _ => none

/-! ## Keys -/

/-- Whether a character may stand in a key without quotes. -/
def isKeyChar (c : Char) : Bool := c.isAlphanum || c == '_' || c == '-'

/-- Reads one part of a key. -/
def keyPart? (s : List Char) : Option (List Char × List Char) :=
  match s with
  | '"' :: s => basicString? s
  | '\'' :: s => literalString? s
  | s =>
    let name := s.takeWhile isKeyChar
    if name.isEmpty then none else some (name, s.dropWhile isKeyChar)

/-- Reads the parts of a dotted key and the spaces around them. -/
def key? : (fuel : Nat) → List Char → Option (List String × List Char)
  | 0, _ => none
  | fuel + 1, s => do
    let (part, s) ← keyPart? (skipSpace s)
    match skipSpace s with
    | '.' :: s =>
      let (parts, rest) ← key? fuel s
      pure (String.ofList part :: parts, rest)
    | rest => pure ([String.ofList part], rest)

/-! ## Numbers -/

/-- Reads digits; single underscores may stand between them. -/
def digits? (base : Nat) : List Char → Option (List Char × List Char)
  | [] => none
  | '_' :: _ => none
  | c :: '_' :: s => if isDigitOf base c then (digits? base s).map (keep c) else none
  | c :: s =>
    if isDigitOf base c then
      match digits? base s with
      | some r => some (keep c r)
      | none => if (s.head?.map (isDigitOf base)).getD false then none else some ([c], s)
    else none

/-- The whole numbers a document may hold are those of 64 bits with a sign. -/
def integer? (n : Int) : Option Toml :=
  if -9223372036854775808 ≤ n && n ≤ 9223372036854775807 then some (.integer n) else none

/-- Reads a fraction after its point and an exponent, each if there is one, after the whole part of
a number: the digits of the fraction, the exponent, and whether there was either. -/
def fractionAndExponent? (s : List Char) : Option (List Char × Int × Bool × List Char) := do
  let (places, hasPlaces, s) ← match s with
    | '.' :: s => (digits? 10 s).map fun r => (r.1, true, r.2)
    | s => some ([], false, s)
  match s with
  | e :: rest =>
    if e == 'e' || e == 'E' then
      let (negative, rest) := match rest with
        | '-' :: rest => (true, rest)
        | '+' :: rest => (false, rest)
        | rest => (false, rest)
      let (ds, rest) ← digits? 10 rest
      let n : Int := digitsValue 10 ds
      pure (places, if negative then -n else n, true, rest)
    else pure (places, 0, hasPlaces, s)
  | [] => pure (places, 0, hasPlaces, s)

/-- Reads a number in decimal after its sign. -/
def decimal? (negative : Bool) (s : List Char) : Option (Toml × List Char) := do
  let (ds, s) ← digits? 10 s
  if ds.length > 1 && ds.head? == some '0' then none
  else
    let (places, exponent, isFloat, rest) ← fractionAndExponent? s
    let n := digitsValue 10 (ds ++ places)
    if isFloat then
      let scale := exponent - places.length
      if !negative && Decimal.overflows n scale then none
      else
        let sign := if negative then "-" else ""
        pure (.float (sign ++ toString n ++ "e" ++ toString scale), rest)
    else
      let value ← integer? (if negative then -(n : Int) else n)
      pure (value, rest)

/-- Reads a number in a base other than ten, after the letter that tells the base. -/
def based? (base : Nat) (s : List Char) : Option (Toml × List Char) := do
  let (ds, rest) ← digits? base s
  let value ← integer? (digitsValue base ds)
  pure (value, rest)

/-- Reads a number after its sign, infinite ones and those that are none included. -/
def signed? (negative : Bool) (s : List Char) : Option (Toml × List Char) :=
  match s with
  | 'i' :: 'n' :: 'f' :: rest => some (.float "inf", rest)
  | 'n' :: 'a' :: 'n' :: rest => some (.float "nan", rest)
  | s => decimal? negative s

/-- Reads a number. -/
def number? : List Char → Option (Toml × List Char)
  | '0' :: 'x' :: s => based? 16 s
  | '0' :: 'o' :: s => based? 8 s
  | '0' :: 'b' :: s => based? 2 s
  | '+' :: s => signed? false s
  | '-' :: s => signed? true s
  | s => signed? false s

/-! ## Dates -/

/-- Reads two digits that write a number in a range. -/
def twoDigits? (least greatest : Nat) : List Char → Option (Nat × List Char)
  | a :: b :: s =>
    if isDigit a && isDigit b then
      let n := digitsValue 10 [a, b]
      if least ≤ n && n ≤ greatest then some (n, s) else none
    else none
  | _ => none

/-- The rest of a text after a character. -/
def after? (c : Char) : List Char → Option (List Char)
  | d :: s => if c == d then some s else none
  | [] => none

/-- The number of days of a month. -/
def daysOfMonth (year month : Nat) : Nat :=
  let isLeap := year % 4 == 0 && (year % 100 != 0 || year % 400 == 0)
  if month == 2 then (if isLeap then 29 else 28)
  else if month == 4 || month == 6 || month == 9 || month == 11 then 30
  else 31

/-- Whether a text starts like a date: four digits and a dash. -/
def startsDate : List Char → Bool
  | a :: b :: c :: d :: '-' :: _ => [a, b, c, d].all isDigit
  | _ => false

/-- Whether a text starts like a time of day: an hour and a colon. -/
def startsTime (s : List Char) : Bool :=
  match twoDigits? 0 23 s with
  | some (_, ':' :: _) => true
  | _ => false

/-- The text after a date. -/
def afterDate? (s : List Char) : Option (List Char) := do
  let year := digitsValue 10 (s.take 4)
  let (month, s) ← twoDigits? 1 12 (s.drop 5)
  let s ← after? '-' s
  let (day, s) ← twoDigits? 1 31 s
  if day ≤ daysOfMonth year month then some s else none

/-- The text after a time of day. -/
def afterTime? (s : List Char) : Option (List Char) := do
  let (_, s) ← twoDigits? 0 23 s
  let s ← after? ':' s
  let (_, s) ← twoDigits? 0 59 s
  let s ← after? ':' s
  let (_, s) ← twoDigits? 0 60 s
  match s with
  | '.' :: d :: rest => if isDigit d then some (rest.dropWhile isDigit) else some s
  | _ => some s

/-- The text after the offset in front, if there is one. -/
def afterOffset? : List Char → Option (List Char)
  | [] => some []
  | c :: s =>
    if c == 'Z' || c == 'z' then some s
    else if c == '+' || c == '-' then do
      let (_, s) ← twoDigits? 0 23 s
      let s ← after? ':' s
      let (_, s) ← twoDigits? 0 59 s
      some s
    else some (c :: s)

/-- The text after a date and the time that may follow it. -/
def afterDateTime? (s : List Char) : Option (List Char) := do
  let s ← afterDate? s
  match s with
  | c :: rest =>
    if (c == 'T' || c == 't' || c == ' ') && startsTime rest then
      (afterTime? rest).bind afterOffset?
    else some s
  | [] => some s

/-- Reads a date, a time of day or a number. -/
def dateOrNumber? (s : List Char) : Option (Toml × List Char) :=
  let literal (rest : List Char) : Toml × List Char :=
    (.date (String.ofList (s.take (s.length - rest.length))), rest)
  if startsDate s then (afterDateTime? s).map literal
  else if startsTime s then (afterTime? s).map literal
  else number? s

end TestPlanner.Toml
