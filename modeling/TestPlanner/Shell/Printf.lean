import TestPlanner.Shell.Escape
import TestPlanner.Shell.Floating

/-!
# Formats

What the program `printf` writes. A format is text with escapes and with places for arguments; each
place may have flags, a width and a precision. The format is used again until the arguments are used
up, and a place without an argument is filled with nothing or zero.
-/

set_option autoImplicit false

namespace TestPlanner.Shell

/-- A place for an argument. -/
structure FormatPlace where
  flags : List Char
  width : Nat
  precision : Option Nat
  kind : Char
  deriving DecidableEq, Repr

namespace FormatPlace

/-- Fills a text up to the width. -/
def filled (p : FormatPlace) (s : List UInt8) : List UInt8 :=
  let missing := List.replicate (p.width - s.length) 32
  if p.flags.contains '-' then s ++ missing else missing ++ s

/-- The digits of a number in a base. -/
def digitsOf (base n : Nat) (upper : Bool) : List Char :=
  (Nat.toDigits base n).map fun c => if upper then c.toUpper else c

/-- A number as the place asks. -/
def number (p : FormatPlace) (n : Int) : List UInt8 :=
  let isSigned := p.kind == 'd' || p.kind == 'i'
  let size : Nat := if isSigned then n.natAbs else Sum.bits n
  let base := if p.kind == 'o' then 8 else if p.kind == 'x' || p.kind == 'X' then 16 else 10
  let ds := if p.precision == some 0 && size == 0 then [] else digitsOf base size (p.kind == 'X')
  let ds := List.replicate (p.precision.getD 0 - ds.length) '0' ++ ds
  let sign : List Char :=
    if isSigned then
      if n < 0 then ['-'] else if p.flags.contains '+' then ['+']
      else if p.flags.contains ' ' then [' '] else []
    else if p.flags.contains '#' && size != 0 then
      match p.kind with
      | 'x' => ['0', 'x']
      | 'X' => ['0', 'X']
      | 'o' => if ds.head? == some '0' then [] else ['0']
      | _ => []
    else []
  let padded :=
    if p.flags.contains '0' && !p.flags.contains '-' && p.precision.isNone then
      List.replicate (p.width - sign.length - ds.length) '0' ++ ds
    else ds
  p.filled (bytesOf (String.ofList (sign ++ padded)))

/-- A floating point number as the place asks. -/
def floating (p : FormatPlace) (negative : Bool) (size : Floating.Size) : List UInt8 :=
  let isFinite := match size with
    | .finite .. => true
    | _ => false
  let sign : List Char :=
    if negative then ['-'] else if p.flags.contains '+' then ['+']
    else if p.flags.contains ' ' then [' '] else []
  let text := Floating.text p.kind p.precision (p.flags.contains '#') size
  let isHex := isFinite && p.kind.toLower == 'a'
  let front := sign ++ if isHex then text.take 2 else []
  let back := if isHex then text.drop 2 else text
  let zeros :=
    if p.flags.contains '0' && !p.flags.contains '-' && isFinite then
      List.replicate (p.width - front.length - back.length) '0'
    else []
  let whole := front ++ zeros ++ back
  p.filled (bytesOf (String.ofList (if p.kind.isUpper then whole.map Char.toUpper else whole)))

end FormatPlace

/-- A number at the front of a text, and what follows it. -/
def leadingNat (s : List Char) : Nat × List Char :=
  let ds := s.takeWhile Char.isDigit
  (ds.foldl (fun n d => n * 10 + (d.toNat - '0'.toNat)) 0, s.drop ds.length)

/-- What may be wrong with a format or its arguments. -/
inductive FormatFault where
  | notNumeric (argument : String)
  | partlyNumeric (argument : String)
  | outOfRange (argument : String)
  | noKind
  | unknownKind (place : String)
  deriving DecidableEq, Repr

/-- A fault in words: those of the shell, or those of the program, which quotes arguments. -/
def FormatFault.message (quoted : Option (String → String)) : FormatFault → String
  | .notNumeric a => match quoted with
    | some quote => quote a ++ ": expected a numeric value"
    | none => a ++ ": expected numeric value"
  | .partlyNumeric a => match quoted with
    | some quote => quote a ++ ": value not completely converted"
    | none => a ++ ": not completely converted"
  | .outOfRange a => quoted.getD id a ++ ": Numerical result out of range"
  | .noKind => if quoted.isSome then "%: invalid conversion specification"
    else "missing format character"
  | .unknownKind place => place ++
      if quoted.isSome then ": invalid conversion specification" else ": invalid directive"

/-- What is wrong with an argument of which a part was read as a number, if anything is. -/
def argumentFault? (a : String) (rest : List Char) (inRange : Bool) : Option FormatFault :=
  if !rest.isEmpty then
    some (if rest.length == a.length then .notNumeric a else .partlyNumeric a)
  else if !inRange then some (.outOfRange a)
  else none

/-- The number of an argument, with a sign or of 64 bits without one, and what is wrong with it. -/
def argumentNumber (isSigned : Bool) (a : String) : Int × Option FormatFault :=
  let quoted (rest : List Char) : Int × Option FormatFault :=
    (((bytesOf (String.ofList rest)).headD 0).toNat, none)
  match a.toList with
  | '"' :: rest => quoted rest
  | '\'' :: rest => quoted rest
  | s =>
    let t := s.dropWhile Sum.isBlank
    let (negative, t) := match t with
      | '-' :: t => (true, t)
      | '+' :: t => (false, t)
      | t => (false, t)
    if !(t.headD ' ').isDigit then (0, argumentFault? a s true)
    else
      let (size, rest) := Sum.natural t
      let n : Int := if negative then -size else size
      let (low, high) : Int × Int := if isSigned then (Sum.least, Sum.greatest)
        else (1 - Sum.span, Sum.span - 1)
      let inRange := low ≤ n && n ≤ high
      let n := if inRange then n else if negative && isSigned then low else high
      (n, argumentFault? a rest inRange)

/-- The floating point number of an argument: its sign and its size, and what is wrong with it. -/
def argumentFloating (a : String) : Bool × Floating.Size × Option FormatFault :=
  let quoted (rest : List Char) : Bool × Floating.Size × Option FormatFault :=
    (false, .finite ((bytesOf (String.ofList rest)).headD 0).toNat 0, none)
  match a.toList with
  | '"' :: rest => quoted rest
  | '\'' :: rest => quoted rest
  | s =>
    let t := s.dropWhile Sum.isBlank
    let (negative, t) := match t with
      | '-' :: t => (true, t)
      | '+' :: t => (false, t)
      | t => (false, t)
    let (size, rest) := Floating.read t
    if rest.length == t.length then (false, .finite 0 0, argumentFault? a s true)
    else
      let inRange := match size with
        | .infinite => Floating.startsWith "inf" t
        | _ => true
      (negative, size, argumentFault? a rest inRange)

/-- What was written so far, the arguments left, the faults, whether more may follow, and whether
the format itself is mistaken. -/
structure FormatProgress where
  output : List UInt8
  arguments : List String
  faults : List FormatFault
  goesOn : Bool
  isMistaken : Bool := false

namespace FormatProgress

/-- Writes more. -/
def write (p : FormatProgress) (s : List UInt8) : FormatProgress :=
  { p with output := p.output ++ s }

/-- The end of a format that is mistaken. -/
def mistaken (p : FormatProgress) (fault : FormatFault) : FormatProgress :=
  { p with faults := p.faults ++ [fault], goesOn := false, isMistaken := true }

/-- The next argument as a number, which is zero if there is none. -/
def nextNumber (p : FormatProgress) (isSigned : Bool) : Int × FormatProgress :=
  match p.arguments with
  | [] => (0, p)
  | a :: rest =>
    let (n, fault) := argumentNumber isSigned a
    (n, { p with arguments := rest, faults := p.faults ++ fault.toList })

/-- Fills a place with the next argument. -/
def fill (p : FormatProgress) (place : FormatPlace) : FormatProgress :=
  let a := p.arguments.headD ""
  let rest := { p with arguments := p.arguments.tail }
  let shortened (s : List UInt8) : List UInt8 :=
    match place.precision with
    | some n => s.take n
    | none => s
  if place.kind == 's' then rest.write (place.filled (shortened (bytesOf a)))
  else if place.kind == 'b' then
    let (s, goesOn) := unescape false a.toList
    { rest.write (place.filled (shortened s)) with goesOn := goesOn }
  else if place.kind == 'c' then rest.write (place.filled [(bytesOf a).headD 0])
  else if "aAeEfFgG".toList.contains place.kind then
    let (negative, size, fault) := argumentFloating a
    { rest.write (place.floating negative size) with faults := rest.faults ++ fault.toList }
  else
    let (n, p) := p.nextNumber (place.kind == 'd' || place.kind == 'i')
    p.write (place.number n)

end FormatProgress

/-- Reads a place after its percent sign, stars taking their numbers from the arguments; also
returns what follows the place. A place that ends too early is of no kind. -/
def formatPlace (s : List Char) (p : FormatProgress) :
    FormatPlace × List Char × FormatProgress :=
  let flags := s.takeWhile fun c => ['-', '+', ' ', '#', '0'].contains c
  let s := s.drop flags.length
  let starred (s : List Char) (p : FormatProgress) : Int × List Char × FormatProgress :=
    match s with
    | '*' :: s =>
      let (n, p) := p.nextNumber true
      (n, s, p)
    | s => ((leadingNat s).1, (leadingNat s).2, p)
  let (width, s, p) := starred s p
  let flags := if width < 0 then '-' :: flags else flags
  let (precision, s, p) : Option Nat × List Char × FormatProgress := match s with
    | '.' :: s =>
      let (n, s, p) := starred s p
      (if n < 0 then none else some n.toNat, s, p)
    | s => (none, s, p)
  (⟨flags, width.natAbs, precision, s.headD '\x00'⟩, s.tail, p)

/-- Writes a format once. -/
def formatOnce : (fuel : Nat) → List Char → FormatProgress → FormatProgress
  | 0, _, p => p
  | _, [], p => p
  | fuel + 1, c :: s, p =>
    if !p.goesOn then p
    else
      match c, s with
      | '%', '%' :: s => formatOnce fuel s (p.write (bytesOf "%"))
      | '%', s =>
        let (place, rest, p) := formatPlace s p
        if "sbcdiouxXaAeEfFgG".toList.contains place.kind then formatOnce fuel rest (p.fill place)
        else if place.kind == '\x00' then p.mistaken .noKind
        else
          let text := String.ofList ('%' :: s.take (s.length - rest.length))
          p.mistaken (.unknownKind text)
      | '\\', e :: s =>
        let ds := octalDigits 3 (e :: s)
        if !ds.isEmpty then formatOnce fuel ((e :: s).drop ds.length) (p.write [octalByte ds])
        else
          match escaped? e with
          | some x => formatOnce fuel s (p.write (bytesOf x.toString))
          | none => formatOnce fuel (e :: s) (p.write (bytesOf "\\"))
      | c, s => formatOnce fuel s (p.write (bytesOf c.toString))

/-- Writes a format as often as it takes to use up the arguments. -/
def formatAll (format : List Char) : (limit : Nat) → FormatProgress → FormatProgress
  | 0, p => p
  | limit + 1, p =>
    let q := formatOnce (format.length + 1) format p
    if q.goesOn && !q.arguments.isEmpty && q.arguments.length < p.arguments.length then
      formatAll format limit q
    else q

/-- What a format comes to: its output, the faults of arguments or the format, and a code. -/
structure Formatted where
  output : List UInt8
  faults : List FormatFault
  code : Nat

/-- Writes a format and its arguments. -/
def formatted (format : String) (arguments : List String) : Formatted :=
  let p := formatAll format.toList (arguments.length + 1) ⟨[], arguments, [], true, false⟩
  ⟨p.output, p.faults, if p.isMistaken then 2 else if p.faults.isEmpty then 0 else 1⟩

end TestPlanner.Shell
