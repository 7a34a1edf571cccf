import TestPlanner.Text.Blank
import TestPlanner.Text.Case

/-!
# Leftmost search with ordered choice

The phrases that the planner looks for in prose are described by recognisers that try their choices
in a fixed order and settle on the first that lets the rest of the phrase match. A recogniser with
a choice to make therefore takes the rest of the phrase as a function `next`, applied to the text
that remains: `shortest next` takes as few characters as possible before `next` succeeds,
`many p next` as many as possible. A search tries every position from the left.

Letters of a phrase stand for either case. Besides the two ASCII forms, the letters s and k stand
for the long s and the Kelvin sign.
-/

set_option autoImplicit false

namespace TestPlanner.Text

universe u

variable {α : Type u}

/-- Whether `c` is a form of the lower-case ASCII character `letter` when case is ignored. -/
def sameLetter (letter c : Char) : Bool :=
  asciiLower c == letter || (letter == 's' && c == 'ſ') || (letter == 'k' && c == '\u212A')

/-- The rest of a text after `word`, read without regard to case. -/
def phrase? : (word s : List Char) → Option (List Char)
  | [], s => some s
  | _ :: _, [] => none
  | w :: word, c :: s => if sameLetter w c then phrase? word s else none

/-- Takes as many characters satisfying `p` as `next` permits, possibly none. -/
def many (p : Char → Bool) (next : List Char → Option α) : List Char → Option α
  | [] => next []
  | c :: s => if p c then (many p next s).or (next (c :: s)) else next (c :: s)

/-- Takes as many characters satisfying `p` as `next` permits, at least one. -/
def many1 (p : Char → Bool) (next : List Char → Option α) : List Char → Option α
  | [] => none
  | c :: s => if p c then many p next s else none

/-- Takes as few characters as `next` permits, at least one and all on one line, and returns
them. -/
def shortest (next : List Char → Option α) : List Char → Option (List Char × α)
  | [] => none
  | c :: s =>
    if c == '\n' then none
    else ((next s).map fun a => ([c], a)).or ((shortest next s).map fun r => (c :: r.1, r.2))

/-- The first of several words, each preceded by blanks, after which `next` succeeds. -/
def spacedPhrase (options : List (List Char)) (next : List Char → Option α) (s : List Char) :
    Option α :=
  options.findSome? fun word => many1 isBlank (fun rest => (phrase? word rest).bind next) s

/-- Succeeds at `stop` and at the end of the text. -/
def atStop (stop : Char) : List Char → Option Unit
  | [] => some ()
  | c :: _ => if c == stop then some () else none

/-- The result of `recognise` at the leftmost position where it succeeds. -/
def search (recognise : List Char → Option α) : List Char → Option α
  | [] => recognise []
  | c :: s => (recognise (c :: s)).or (search recognise s)

/-- The result of `recognise` at the leftmost line start where it succeeds; `fresh` tells whether
the text starts a line. -/
def searchLines (recognise : List Char → Option α) (fresh : Bool) : List Char → Option α
  | [] => if fresh then recognise [] else none
  | c :: s =>
    if fresh then (recognise (c :: s)).or (searchLines recognise (c == '\n') s)
    else searchLines recognise (c == '\n') s

end TestPlanner.Text
