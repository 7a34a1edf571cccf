import TestPlanner.Decimal

/-!
# YAML strings

A string is written in one of four styles:

- **plain**, as it is, if no other value is written like that and no character of it is an
  indicator where it stands;
- **single quotes** otherwise, with a quote inside written twice;
- **literal**, as a block of its own lines, if it has line breaks;
- **double quotes** with escapes, if the style chosen so far cannot hold it.

A plain string is all on one line. So is a quoted one, unless a separator of lines or paragraphs
breaks it.
-/

set_option autoImplicit false

namespace TestPlanner.Yaml

/-! ## Characters -/

/-- Whether a character breaks a line. -/
def isBreak (c : Char) : Bool :=
  let n := c.toNat
  n == 0x0A || n == 0x0D || n == 0x85 || n == 0x2028 || n == 0x2029

/-- Whether a character is a blank, a tab or a line break. -/
def isGap (c : Char) : Bool := c == ' ' || c == '\t' || isBreak c

/-- Whether a character may stand for itself outside double quotes. -/
def isPrintable (c : Char) : Bool :=
  let n := c.toNat
  n == 0x0A || (0x20 ≤ n && n ≤ 0x7E) || (0xA0 ≤ n && n ≤ 0xFFFD && n != 0xFEFF) || 0x10000 ≤ n

/-! ## Values that are no strings -/

/-- The words that stand for other values. -/
def reservedWords : List String :=
  ["", "~", "null", "Null", "NULL", "true", "True", "TRUE", "false", "False", "FALSE"]

/-- Whether a character is a decimal digit. -/
def isDigit (c : Char) : Bool := '0' ≤ c && c ≤ '9'

/-- A text without a sign in front. -/
def dropSign : List Char → List Char
  | c :: s => if c == '+' || c == '-' then s else c :: s
  | [] => []

/-- Whether a text is a zero followed by further digits, which is no number but looks like one. -/
def isPadded (s : List Char) : Bool :=
  match s with
  | '0' :: d :: rest => (d :: rest).all isDigit
  | _ => false

/-- The exponent that a text writes, if it is one. -/
def exponent? : List Char → Option Int
  | [] => some 0
  | e :: s =>
    if e == 'e' || e == 'E' then
      let ds := dropSign s
      if ds.isEmpty || !ds.all isDigit then none
      else
        let n : Int := ds.foldl (fun n d => n * 10 + (d.toNat - '0'.toNat)) 0
        some (if s.head? == some '-' then -n else n)
    else none

/-- Whether a text without a sign writes a number that a double can hold. -/
def isDecimal (s : List Char) : Bool :=
  let whole := s.takeWhile isDigit
  let rest := s.dropWhile isDigit
  let (places, rest) := match rest with
    | '.' :: rest => (rest.takeWhile isDigit, rest.dropWhile isDigit)
    | rest => ([], rest)
  match exponent? rest with
  | none => false
  | some e =>
    let digits := (whole ++ places).foldl (fun n d => n * 10 + (d.toNat - '0'.toNat)) 0
    !(whole ++ places).isEmpty && !Decimal.overflows digits (e - places.length)

/-- The value of a digit, a letter being a digit from ten on. -/
def digitValue? (c : Char) : Option Nat :=
  if isDigit c then some (c.toNat - '0'.toNat)
  else if 'a' ≤ c && c ≤ 'f' then some (c.toNat - 'a'.toNat + 10)
  else if 'A' ≤ c && c ≤ 'F' then some (c.toNat - 'A'.toNat + 10)
  else none

/-- The number that digits write in a base, unless one of them is no digit of it. -/
def natural? (base : Nat) (digits : List Char) : Option Nat :=
  if digits.isEmpty then none
  else digits.foldlM (fun n c =>
    (digitValue? c).bind fun d => if d < base then some (n * base + d) else none) 0

/-- Whether a text writes a number of 128 bits in another base. -/
def isBased (s : List Char) : Bool :=
  let limit := if s.head? == some '-' then Nat.pow 2 127 + 1 else Nat.pow 2 128
  let fits (base : Nat) (digits : List Char) : Bool :=
    ((natural? base digits).map fun n => decide (n < limit)).getD false
  match dropSign s with
  | '0' :: 'x' :: digits => fits 16 digits
  | '0' :: 'o' :: digits => fits 8 digits
  | '0' :: 'b' :: digits => fits 2 digits
  | _ => false

/-- Whether a text could be taken for another value than a string. -/
def isAmbiguous (s : List Char) : Bool :=
  let unsigned := dropSign s
  reservedWords.contains (String.ofList s) || isPadded unsigned || isDecimal unsigned ||
    isBased s || [".inf", ".Inf", ".INF"].contains (String.ofList unsigned) ||
    [".nan", ".NaN", ".NAN"].contains (String.ofList s)

/-! ## What the styles can hold -/

/-- Whether the first of some characters is an indicator in front of a string; `next` is the
character after it. -/
def startsIndicator (c : Char) (next : Option Char) : Bool :=
  ['#', ',', '[', ']', '\x7b', '\x7d', '&', '*', '!', '|', '>', '\'', '"', '%', '@',
      '\x60'].contains c ||
    ((c == '?' || c == ':' || c == '-') && (next.map isGap).getD true)

/-- Whether an indicator stands inside a string: a colon before a gap, or a number sign after one;
`after` tells whether a gap came right before. -/
def hasIndicator (after : Bool) : List Char → Bool
  | [] => false
  | c :: s =>
    (c == ':' && (s.head?.map isGap).getD true) || (c == '#' && after) || hasIndicator (isGap c) s

/-- Whether two neighbours in a text satisfy two conditions. -/
def hasPair (p q : Char → Bool) : List Char → Bool
  | c :: d :: s => (p c && q d) || hasPair p q (d :: s)
  | _ => false

/-- Whether a character is a space. -/
def isSpace (c : Char) : Bool := c == ' '

/-- Whether a string can be written plainly. -/
def fitsPlain (s : List Char) : Bool :=
  match s with
  | [] => true
  | c :: rest =>
    !(['-', '-', '-'].isPrefixOf s) && !(['.', '.', '.'].isPrefixOf s) &&
      !startsIndicator c rest.head? && !hasIndicator (isGap c) rest &&
      s.all isPrintable && !s.any isBreak && c != ' ' && s.getLast? != some ' '

/-- Whether a string can be written in single quotes. -/
def fitsSingle (s : List Char) : Bool :=
  s.all isPrintable && !hasPair isSpace isBreak s && !hasPair isBreak isSpace s

/-- Whether a string can be written as a block. -/
def fitsBlock (s : List Char) : Bool :=
  s.all isPrintable && !hasPair isSpace isBreak s && s.getLast? != some ' '

/-! ## Writing -/

/-- The inside of single quotes at an indentation; `fresh` tells whether the text starts a line
after the first. -/
def quotedLines (indent : Nat) (fresh : Bool) : List Char → List Char
  | [] => if fresh then List.replicate indent ' ' else []
  | c :: s =>
    if isBreak c then c :: quotedLines indent true s
    else (if fresh then List.replicate indent ' ' else []) ++
      (if c == '\'' then [c, c] else [c]) ++ quotedLines indent false s

/-- A string in single quotes. A separator of lines or paragraphs inside it ends a line, and the
next line is indented. -/
def singleQuoted (indent : Nat) (s : List Char) : List Char :=
  '\'' :: (quotedLines indent false s ++ ['\''])

/-- A digit below sixteen in upper-case hexadecimal. -/
def hexChar (n : Nat) : Char :=
  if n < 10 then Char.ofNat (n + 48) else Char.ofNat (n + 55)

/-- A number in so many hexadecimal digits. -/
def hexDigits : (count : Nat) → Nat → List Char
  | 0, _ => []
  | count + 1, n => hexDigits count (n / 16) ++ [hexChar (n % 16)]

/-- The short escapes. -/
def shortEscapes : List (Nat × Char) :=
  [(0x00, '0'), (0x07, 'a'), (0x08, 'b'), (0x09, 't'), (0x0A, 'n'), (0x0B, 'v'), (0x0C, 'f'),
    (0x0D, 'r'), (0x1B, 'e'), (0x22, '"'), (0x5C, '\\'), (0x85, 'N'), (0x2028, 'L'),
    (0x2029, 'P')]

/-- A character inside double quotes. -/
def escapeChar (c : Char) : List Char :=
  let n := c.toNat
  if isPrintable c && !isBreak c && c != '"' && c != '\\' then [c]
  else match shortEscapes.lookup n with
    | some e => ['\\', e]
    | none =>
      if n ≤ 0xFF then '\\' :: 'x' :: hexDigits 2 n
      else if n ≤ 0xFFFF then '\\' :: 'u' :: hexDigits 4 n
      else '\\' :: 'U' :: hexDigits 8 n

/-- A string in double quotes. -/
def doubleQuoted (s : List Char) : List Char :=
  '"' :: (s.flatMap escapeChar ++ ['"'])

/-- The lines of a block at an indentation; `fresh` tells whether the text starts a line. -/
def blockLines (indent : Nat) (fresh : Bool) : List Char → List Char
  | [] => []
  | c :: s =>
    if isBreak c then c :: blockLines indent true s
    else (if fresh then List.replicate indent ' ' else []) ++ c :: blockLines indent false s

/-- How a block ends: without a line break, with one, or with several. -/
def blockEnd (s : List Char) : List Char :=
  match s.reverse with
  | [] => ['-']
  | [c] => if isBreak c then ['+'] else ['-']
  | c :: d :: _ => if isBreak c then (if isBreak d then ['+'] else []) else ['-']

/-- A string as a block of lines at an indentation, up to the end of the last line. A block that
starts with a gap says how deep its lines are indented. -/
def block (indent : Nat) (s : List Char) : List Char :=
  let hint : List Char :=
    match s with
    | c :: _ => if c == ' ' || isBreak c then ['2'] else []
    | [] => []
  let body := blockLines indent true s
  '|' :: (hint ++ blockEnd s ++ '\n' :: body ++
    if (body.getLast?.map isBreak).getD false then [] else ['\n'])

/-- A string in its style, up to the end of its line; `indent` is the indentation of its further
lines. -/
def stringChars (indent : Nat) (s : List Char) : List Char :=
  if s.contains '\n' && fitsBlock s then block indent s
  else if !s.contains '\n' && !isAmbiguous s && fitsPlain s then s ++ ['\n']
  else if !s.contains '\n' && fitsSingle s then singleQuoted indent s ++ ['\n']
  else doubleQuoted s ++ ['\n']

end TestPlanner.Yaml
