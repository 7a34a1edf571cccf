import TestPlanner.Shell.Escape
import TestPlanner.Text.Utf8

/-!
# Patterns

A pattern describes texts: a star stands for any bytes, a question mark for one, and brackets for
one of a set. What is quoted stands for itself. Bytes are written as the characters of their
numbers, so that a character outside ASCII counts as several.
-/

set_option autoImplicit false

namespace TestPlanner.Shell

/-- A character of an expanded word, and whether it is quoted. -/
structure Glyph where
  char : Char
  quoted : Bool
  /-- whether the word may be split at the character -/
  splits : Bool
  deriving DecidableEq, Repr

/-- A part of a pattern. -/
inductive PatternPart where
  | char (c : Char)
  | any
  | many
  /-- a character in or, if inverted, outside some ranges and classes -/
  | set (inverted : Bool) (ranges : List (Char × Char)) (classes : List (List Char))
  deriving DecidableEq, Repr

/-- A pattern. -/
abbrev Pattern := List PatternPart

namespace Pattern

/-- Whether a character is in a class. -/
def inClass (name : List Char) (c : Char) : Bool :=
  let isPunctuation := c.toNat < 128 && 32 < c.toNat && c.toNat != 127 && !c.isAlphanum
  match String.ofList name with
  | "alpha" => c.isAlpha
  | "digit" => c.isDigit
  | "alnum" => c.isAlphanum
  | "upper" => c.isUpper
  | "lower" => c.isLower
  | "space" => c == ' ' || (9 ≤ c.toNat && c.toNat ≤ 13)
  | "blank" => c == ' ' || c == '\t'
  | "punct" => isPunctuation
  | "print" => 32 ≤ c.toNat && c.toNat != 127
  | "graph" => 32 < c.toNat && c.toNat != 127
  | "cntrl" => c.toNat < 32 || c.toNat == 127
  | "xdigit" => c.isDigit || ('a' ≤ c && c ≤ 'f') || ('A' ≤ c && c ≤ 'F')
  | _ => false

/-- The ranges and classes up to a closing bracket, and what follows it. -/
def setBody? : (fuel : Nat) → (first : Bool) → List Glyph →
    Option ((List (Char × Char) × List (List Char)) × List Glyph)
  | 0, _, _ => none
  | _, _, [] => none
  | fuel + 1, first, g :: s =>
    if g.char == ']' && !g.quoted && !first then some (([], []), s)
    else if g.char == '[' && !g.quoted && (s.head?.map Glyph.char) == some ':' then
      let name := (s.tail.takeWhile fun g => g.char.isAlpha).map Glyph.char
      match (s.tail.drop name.length).map Glyph.char with
      | ':' :: ']' :: _ =>
        (setBody? fuel false (s.drop (name.length + 3))).map fun r =>
          ((r.1.1, name :: r.1.2), r.2)
      | _ => (setBody? fuel false s).map fun r => (((g.char, g.char) :: r.1.1, r.1.2), r.2)
    else
      match s with
      | ⟨'-', false, _⟩ :: high :: rest =>
        if high.char == ']' && !high.quoted then
          (setBody? fuel false s).map fun r => (((g.char, g.char) :: r.1.1, r.1.2), r.2)
        else (setBody? fuel false rest).map fun r => (((g.char, high.char) :: r.1.1, r.1.2), r.2)
      | s => (setBody? fuel false s).map fun r => (((g.char, g.char) :: r.1.1, r.1.2), r.2)

/-- The pattern that glyphs write. A bracket that is not closed stands for itself. -/
def ofGlyphs : (fuel : Nat) → List Glyph → Pattern
  | 0, _ => []
  | _, [] => []
  | fuel + 1, g :: s =>
    if g.quoted then .char g.char :: ofGlyphs fuel s
    else if g.char == '*' then .many :: ofGlyphs fuel s
    else if g.char == '?' then .any :: ofGlyphs fuel s
    else if g.char == '[' then
      let inverted := match s with
        | ⟨c, false, _⟩ :: _ => c == '!'
        | _ => false
      match setBody? fuel true (if inverted then s.tail else s) with
      | some ((ranges, classes), rest) => .set inverted ranges classes :: ofGlyphs fuel rest
      | none => .char '[' :: ofGlyphs fuel s
    else .char g.char :: ofGlyphs fuel s

/-- The bytes of a text, each as a character. -/
def octets (s : List Char) : List Char :=
  (bytesOf (String.ofList s)).map fun b => Char.ofNat b.toNat

/-- The pattern that a word writes. -/
def ofWord (s : List Glyph) : Pattern :=
  let bytes := s.flatMap fun g => (octets [g.char]).map fun c => { g with char := c }
  ofGlyphs (bytes.length + 1) bytes

/-- The texts that remain when characters are taken from the front, from all to none. -/
def suffixes : List Char → List (List Char)
  | [] => [[]]
  | c :: s => (c :: s) :: suffixes s

/-- Whether a pattern describes some bytes. -/
def holds : Pattern → List Char → Bool
  | [], s => s.isEmpty
  | .many :: p, s => (suffixes s).any fun rest => holds p rest
  | .any :: p, s =>
    match s with
    | _ :: s => holds p s
    | [] => false
  | .char c :: p, s =>
    match s with
    | d :: s => c == d && holds p s
    | [] => false
  | .set inverted ranges classes :: p, s =>
    match s with
    | c :: s =>
      (inverted != ((ranges.any fun r => r.1 ≤ c && c ≤ r.2) ||
        classes.any fun name => inClass name c)) && holds p s
    | [] => false

/-- Whether a pattern describes a text. -/
def describes (p : Pattern) (s : String) : Bool := holds p (octets s.toList)

/-- A text without the part at one of its ends that a pattern describes, the longest or the
shortest. -/
def trim (p : Pattern) (atEnd longest : Bool) (text : String) : String :=
  let s := octets text.toList
  let sizes := List.range (s.length + 1)
  let sizes := if longest then sizes.reverse else sizes
  let part (n : Nat) : List Char := if atEnd then s.drop (s.length - n) else s.take n
  match sizes.find? fun n => holds p (part n) with
  | some n =>
    let rest := if atEnd then s.take (s.length - n) else s.drop n
    Text.Utf8.lossy ⟨(rest.map fun c => UInt8.ofNat c.toNat).toArray⟩
  | none => text

end Pattern

end TestPlanner.Shell
