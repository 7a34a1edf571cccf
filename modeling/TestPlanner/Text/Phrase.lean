import TestPlanner.Text.Places

/-!
# Phrases

A phrase is a list of steps: words, blanks, parts that are wanted, and where it has to stop. Each
step settles on the first of its choices that lets the steps behind it match. What a phrase gives is
the list of its parts.

There are two ways to read a phrase. `parts?` reads it at the front of a text, choice by choice;
this says what a phrase means. `places` finds what it gives at all places of a text in one pass
for each step, and searches use that. Main statement: both agree (`places_eq`), so a search finds
the leftmost place where the phrase matches (`find_eq`, `findOnLine_eq`).
-/

set_option autoImplicit false

namespace TestPlanner.Text

/-- A step of a phrase. -/
inductive Phrase.Step where
  /-- characters, read without regard to case -/
  | word (w : List Char)
  /-- characters that may be missing -/
  | perhaps (w : List Char)
  /-- as many characters of a kind as possible, possibly none -/
  | run (kind : Char → Bool)
  /-- as many blanks as possible, at least one -/
  | gap
  /-- the first of several words, with blanks in front -/
  | spaced (options : List (List Char))
  /-- a word with blanks in front, which may be missing -/
  | perhapsSpaced (w : List Char)
  /-- as few characters as possible, at least one and all on one line, which are wanted -/
  | part
  /-- a character that has to follow, unless the text ends -/
  | stop (c : Char)

/-- A phrase, as the list of its steps. -/
abbrev Phrase := List Phrase.Step

namespace Phrase

/-- The parts of a phrase at the front of a text, if it matches. -/
def parts? : Phrase → List Char → Option (List (List Char))
  | [] => fun _ => some []
  | .word w :: p => fun s => (phrase? w s).bind (parts? p)
  | .perhaps w :: p => fun s => ((phrase? w s).bind (parts? p)).or (parts? p s)
  | .run kind :: p => many kind (parts? p)
  | .gap :: p => many1 isBlank (parts? p)
  | .spaced options :: p => spacedPhrase options (parts? p)
  | .perhapsSpaced w :: p => fun s => (spacedPhrase [w] (parts? p) s).or (parts? p s)
  | .part :: p => fun s => (shortest (parts? p) s).map fun r => r.1 :: r.2
  | .stop c :: p => fun s => (atStop c s).bind fun _ => parts? p s

/-- The parts of a phrase at all places of a text. -/
def places : Phrase → List Char → Places (List (List Char))
  | [], s => .of (fun _ => some []) s
  | .word w :: p, s => (places p s).phrase w
  | .perhaps w :: p, s =>
    let rest := places p s
    (rest.phrase w).either rest
  | .run kind :: p, s => (places p s).many kind
  | .gap :: p, s => (places p s).many1 isBlank
  | .spaced options :: p, s => (places p s).spacedPhrase options
  | .perhapsSpaced w :: p, s =>
    let rest := places p s
    (rest.spacedPhrase [w]).either rest
  | .part :: p, s => (places p s).shortest.remade fun t => t.here.map fun r => r.1 :: r.2
  | .stop c :: p, s => (places p s).atStop c

/-- The parts of a phrase at all places are those at the front of every rest of the text. -/
theorem places_eq (p : Phrase) (s : List Char) : p.places s = .of p.parts? s := by
  induction p with
  | nil => rfl
  | cons step p ih =>
    cases step with
    | word w => simp only [places, ih, Places.phrase_of, parts?]
    | perhaps w => simp only [places, ih, Places.phrase_of, Places.either_of, parts?]
    | run kind => simp only [places, ih, Places.many_of, parts?]
    | gap => simp only [places, ih, Places.many1_of, parts?]
    | spaced options => simp only [places, ih, Places.spacedPhrase_of, parts?]
    | perhapsSpaced w =>
      simp only [places, ih, Places.spacedPhrase_of, Places.either_of, parts?]
    | part =>
      simp only [places, ih, Places.shortest_of, parts?]
      exact Places.remade_of (fun s => by rw [Places.here_of]) s
    | stop c => simp only [places, ih, Places.atStop_of, parts?]

/-- The parts of a phrase at the leftmost place where it matches. -/
def find? (p : Phrase) (s : List Char) : Option (List (List Char)) := (p.places s).leftmost?

/-- The parts of a phrase at the leftmost start of a line where it matches. -/
def findOnLine? (p : Phrase) (s : List Char) : Option (List (List Char)) :=
  (p.places s).leftmostOnLine? true

theorem find_eq (p : Phrase) (s : List Char) : p.find? s = search p.parts? s := by
  rw [find?, places_eq, Places.leftmost_of]

theorem findOnLine_eq (p : Phrase) (s : List Char) :
    p.findOnLine? s = searchLines p.parts? true s := by
  rw [findOnLine?, places_eq, Places.leftmostOnLine_of]

end Phrase

end TestPlanner.Text
