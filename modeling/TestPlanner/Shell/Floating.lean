import TestPlanner.Shell.Sum

/-!
# Floating point numbers

The numbers that formats write with a point or an exponent. An argument is read exactly, brought to
the nearest number of double precision, and written with its exact digits, rounded to even where the
format asks for fewer.
-/

set_option autoImplicit false

namespace TestPlanner.Shell.Floating

/-- The size of a number of double precision. -/
inductive Size where
  /-- a number of the form `m * 2 ^ e` -/
  | finite (m : Nat) (e : Int)
  | infinite
  | undefined
  deriving DecidableEq, Repr

/-- A quotient rounded to the nearest natural number, and to the even one of two. -/
def rounded (a b : Nat) : Nat :=
  let q := a / b
  let r := a % b
  if 2 * r > b || (2 * r == b && q % 2 == 1) then q + 1 else q

/-- A fraction times a power. -/
def scaled (base : Nat) (a b : Nat) (e : Int) : Nat × Nat :=
  if 0 ≤ e then (a * Nat.pow base e.toNat, b) else (a, b * Nat.pow base (-e).toNat)

/-- The number of double precision nearest to a fraction. -/
def nearest (a b : Nat) : Size :=
  if a == 0 then .finite 0 0
  else
    let guess : Int := (Nat.log2 a : Int) - Nat.log2 b
    let (c, d) := scaled 2 a b (-guess)
    let leading := if c ≥ d then guess else guess - 1
    let e := max (leading - 52) (-1074)
    let (c, d) := scaled 2 a b (-e)
    let m := rounded c d
    let (top, _) := scaled 2 m 1 e
    if 0 ≤ e && top ≥ Nat.pow 2 1024 then .infinite else .finite m e

/-! ## Reading -/

/-- The exponent after a letter, if there is one, and what follows. -/
def exponent (letter : Char) (s : List Char) : Int × List Char :=
  match s with
  | c :: rest =>
    if c.toLower != letter then (0, s)
    else
      let (negative, ds) := match rest with
        | '-' :: ds => (true, ds)
        | '+' :: ds => (false, ds)
        | ds => (false, ds)
      let (n, after) := Sum.digits 10 ds
      if after.length == ds.length then (0, s)
      else
        -- larger exponents make no difference
        let n : Int := (min n 100000 : Nat)
        (if negative then -n else n, after)
  | [] => (0, s)

/-- The digits of a number in a base with a point among them: all as one number, how many stand
after the point, how many there are, and what follows. -/
def pointed (base : Nat) (s : List Char) : Nat × Nat × Nat × List Char :=
  let isDigit (c : Char) : Bool := Sum.digit c < base
  let front := s.takeWhile isDigit
  let rest := s.drop front.length
  let (back, rest) := match rest with
    | '.' :: after =>
      let back := after.takeWhile isDigit
      if front.isEmpty && back.isEmpty then ([], rest) else (back, after.drop back.length)
    | rest => ([], rest)
  ((Sum.digits base (front ++ back)).1, back.length, front.length + back.length, rest)

/-- Whether a text starts with a word, in letters of either kind. -/
def startsWith (word : String) (s : List Char) : Bool :=
  (s.take word.length).map Char.toLower == word.toList

/-- The size of the number at the front of a text, and what follows; nothing is taken if there is no
number. -/
def read (s : List Char) : Size × List Char :=
  if startsWith "infinity" s then (.infinite, s.drop 8)
  else if startsWith "inf" s then (.infinite, s.drop 3)
  else if startsWith "nan" s then (.undefined, s.drop 3)
  else
    let decimal : Size × List Char :=
      let (n, places, count, rest) := pointed 10 s
      if count == 0 then (.finite 0 0, s)
      else
        let (e, rest) := exponent 'e' rest
        let (a, b) := scaled 10 n 1 (max (-2000) (min 2000 (e - places)))
        (nearest a b, rest)
    if startsWith "0x" s then
      let (n, places, count, rest) := pointed 16 (s.drop 2)
      if count == 0 then decimal
      else
        let (e, rest) := exponent 'p' rest
        let (a, b) := scaled 2 n 1 (max (-5000) (min 5000 (e - 4 * places)))
        (nearest a b, rest)
    else decimal

/-! ## Writing -/

/-- The digits of a number, with zeros in front up to a count. -/
def digitsFrom (count n : Nat) : List Char :=
  let ds := Nat.toDigits 10 n
  List.replicate (count - ds.length) '0' ++ ds

/-- Digits with a point before the last of them; without any after it there is no point unless one
is asked for. -/
def withPoint (places : Nat) (keepsPoint : Bool) (n : Nat) : List Char :=
  let ds := digitsFrom (places + 1) n
  let front := ds.take (ds.length - places)
  if places == 0 && !keepsPoint then front else front ++ '.' :: ds.drop (ds.length - places)

/-- A number with so many decimal places. -/
def fixed (places : Nat) (keepsPoint : Bool) (m : Nat) (e : Int) : List Char :=
  let (a, b) := scaled 2 m 1 e
  withPoint places keepsPoint (rounded (a * Nat.pow 10 places) b)

/-- The decimal exponent of a number, and its digits with so many after the first. -/
def scientificParts (places : Nat) (m : Nat) (e : Int) : Int × Nat :=
  if m == 0 then (0, 0)
  else
    let (a, b) := scaled 2 m 1 e
    let x : Int := if a ≥ b then ((Nat.toDigits 10 (a / b)).length : Int) - 1
      else -(((List.range 400).find? fun k => a * Nat.pow 10 k ≥ b).getD 0 : Nat)
    let (c, d) := scaled 10 a b (places - x)
    let n := rounded c d
    if n ≥ Nat.pow 10 (places + 1) then (x + 1, n / 10) else (x, n)

/-- An exponent with its sign, and with so many digits at least. -/
def exponentText (letter : Char) (least : Nat) (x : Int) : List Char :=
  letter :: (if x < 0 then '-' else '+') :: digitsFrom least x.natAbs

/-- A number with so many digits after the first, and an exponent. -/
def scientific (places : Nat) (keepsPoint : Bool) (m : Nat) (e : Int) : List Char :=
  let (x, n) := scientificParts places m e
  withPoint places keepsPoint n ++ exponentText 'e' 2 x

/-- Digits without the zeros at the end of their decimal places. -/
def dropZeros (s : List Char) : List Char :=
  if !s.contains '.' then s
  else
    let kept := s.reverse.dropWhile (· == '0')
    (if kept.head? == some '.' then kept.tail else kept).reverse

/-- A number with so many digits that count, with an exponent only if it is very large or small. -/
def general (places : Nat) (keepsPoint : Bool) (m : Nat) (e : Int) : List Char :=
  let count := max places 1
  let (x, n) := scientificParts (count - 1) m e
  let shorten (s : List Char) : List Char := if keepsPoint then s else dropZeros s
  if -4 ≤ x && x < count then shorten (fixed ((count : Int) - 1 - x).toNat keepsPoint m e)
  else shorten (withPoint (count - 1) keepsPoint n) ++ exponentText 'e' 2 x

/-- A number in hexadecimal digits with a binary exponent. -/
def hexadecimal (places : Option Nat) (keepsPoint : Bool) (m : Nat) (e : Int) : List Char :=
  let bits := Nat.log2 m
  let isSubnormal := bits < 52 && e == -1074
  let whole := if isSubnormal || m == 0 then m else m * Nat.pow 2 (52 - bits)
  let x : Int := if m == 0 then 0 else if isSubnormal then -1022 else e + bits
  let count := places.getD 13
  let n := if count ≥ 13 then whole * Nat.pow 16 (count - 13)
    else rounded whole (Nat.pow 16 (13 - count))
  let ds := Nat.toDigits 16 n
  let ds := List.replicate (count + 1 - ds.length) '0' ++ ds
  let back := ds.drop (ds.length - count)
  let back := if places.isNone then (back.reverse.dropWhile (· == '0')).reverse else back
  '0' :: 'x' :: ds.take (ds.length - count) ++
    (if back.isEmpty && !keepsPoint then [] else '.' :: back) ++ exponentText 'p' 1 x

/-- The text of a size in a format. -/
def text (kind : Char) (precision : Option Nat) (keepsPoint : Bool) : Size → List Char
  | .infinite => "inf".toList
  | .undefined => "nan".toList
  | .finite m e =>
    let places := precision.getD 6
    match kind.toLower with
    | 'f' => fixed places keepsPoint m e
    | 'e' => scientific places keepsPoint m e
    | 'g' => general places keepsPoint m e
    | _ => hexadecimal precision keepsPoint m e

end TestPlanner.Shell.Floating
