import TestPlanner.Text.Scan

/-!
# Findings at all places of a text

A recogniser can be asked at every place of a text. Asked at one place after the other, a recogniser
that makes choices reads the same characters over and over. A table of findings keeps what was
found at each place, so that the findings of a longer phrase follow from those of its rest in one
pass from the end of the text.

Every operation on tables agrees with the recogniser of its name: applied to the findings of `next`
it gives the findings of that recogniser before `next` (`shortest_of`, `many_of`, …). A search in
a table is the search with its recogniser (`leftmost_of`, `leftmostOnLine_of`).
-/

set_option autoImplicit false

namespace TestPlanner.Text

universe u v

/-- A text and what is found at each of its places, the end included. -/
inductive Places (α : Type u) where
  /-- the end of the text -/
  | finish (found : Option α)
  /-- a place before a character -/
  | before (c : Char) (found : Option α) (rest : Places α)

namespace Places

variable {α : Type u} {β : Type v}

/-- The findings of a recogniser. -/
def of (recognise : List Char → Option α) : List Char → Places α
  | [] => .finish (recognise [])
  | c :: s => .before c (recognise (c :: s)) (of recognise s)

/-- What is found at the first place. -/
def here : Places α → Option α
  | .finish found => found
  | .before _ found _ => found

/-- The findings from behind `word` on, if the text starts with it in any case. -/
def after? : (word : List Char) → Places α → Option (Places α)
  | [], t => some t
  | _ :: _, .finish _ => none
  | w :: word, .before c _ rest => if sameLetter w c then after? word rest else none

/-- New findings, each made from the findings from its place on. -/
def remade (make : Places α → Option β) : Places α → Places β
  | .finish found => .finish (make (.finish found))
  | .before c found rest => .before c (make (.before c found rest)) (remade make rest)

/-- The findings behind `word`. -/
def phrase (word : List Char) : Places α → Places α :=
  remade fun t => (t.after? word).bind here

/-- The first findings where there are any, else the second ones. -/
def either : Places α → Places α → Places α
  | .before c a s, .before _ b t => .before c (a.or b) (either s t)
  | s, t => .finish (s.here.or t.here)

/-- The findings behind as many characters satisfying `p` as possible, possibly none. -/
def many (p : Char → Bool) : Places α → Places α
  | .finish found => .finish found
  | .before c found rest =>
    let behind := many p rest
    .before c (if p c then behind.here.or found else found) behind

/-- The findings behind as many characters satisfying `p` as possible, at least one. -/
def many1 (p : Char → Bool) (t : Places α) : Places α :=
  remade (fun
    | .finish _ => none
    | .before c _ rest => if p c then rest.here else none) (many p t)

/-- The findings behind as few characters as possible, at least one and all on one line, with those
characters. -/
def shortest : Places α → Places (List Char × α)
  | .finish _ => .finish none
  | .before c _ rest =>
    let behind := shortest rest
    .before c
      (if c == '\n' then none
      else (rest.here.map fun a => ([c], a)).or (behind.here.map fun r => (c :: r.1, r.2))) behind

/-- The findings behind the first of several words with blanks in front. -/
def spacedPhrase (t : Places α) : (options : List (List Char)) → Places α
  | [] => remade (fun _ => none) t
  | word :: options => ((t.phrase word).many1 isBlank).either (t.spacedPhrase options)

/-- The findings at the places before `stop` and at the end. -/
def atStop (stop : Char) : Places α → Places α :=
  remade fun
    | .finish found => found
    | .before c found _ => if c == stop then found else none

/-- The leftmost finding. -/
def leftmost? : Places α → Option α
  | .finish found => found
  | .before _ found rest => found.or (leftmost? rest)

/-- The leftmost finding at the start of a line; `fresh` tells whether the text starts a line. -/
def leftmostOnLine? (fresh : Bool) : Places α → Option α
  | .finish found => if fresh then found else none
  | .before c found rest =>
    if fresh then found.or (leftmostOnLine? (c == '\n') rest)
    else leftmostOnLine? (c == '\n') rest

/-! ## Agreement with the recognisers -/

theorem here_of (f : List Char → Option α) (s : List Char) : (of f s).here = f s := by
  cases s <;> rfl

theorem after?_of (f : List Char → Option α) (word s : List Char) :
    (of f s).after? word = (phrase? word s).map (of f) := by
  induction word generalizing s with
  | nil => rfl
  | cons w word ih =>
    cases s with
    | nil => rfl
    | cons c s =>
      simp only [of, after?, phrase?]
      split
      · exact ih s
      · rfl

theorem remade_of {f : List Char → Option α} {make : Places α → Option β}
    {g : List Char → Option β} (h : ∀ s, make (of f s) = g s) (s : List Char) :
    remade make (of f s) = of g s := by
  induction s with
  | nil => exact congrArg Places.finish (h [])
  | cons c s ih => simp only [of, remade, ih]; exact congrArg (before c · _) (h (c :: s))

theorem phrase_of (f : List Char → Option α) (word s : List Char) :
    (of f s).phrase word = of (fun s => (phrase? word s).bind f) s := by
  refine remade_of (fun s => ?_) s
  rw [after?_of]
  cases phrase? word s <;> simp [here_of]

theorem either_of (f g : List Char → Option α) (s : List Char) :
    (of f s).either (of g s) = of (fun s => (f s).or (g s)) s := by
  induction s with
  | nil => rfl
  | cons c s ih => simp only [of, either, ih]

theorem many_of (f : List Char → Option α) (p : Char → Bool) (s : List Char) :
    (of f s).many p = of (Text.many p f) s := by
  induction s with
  | nil => rfl
  | cons c s ih => simp only [of, many, ih, here_of, Text.many]

theorem many1_of (f : List Char → Option α) (p : Char → Bool) (s : List Char) :
    (of f s).many1 p = of (Text.many1 p f) s := by
  rw [many1, many_of]
  refine remade_of (fun s => ?_) s
  cases s with
  | nil => rfl
  | cons c s => simp only [of, Text.many1, here_of]

theorem shortest_of (f : List Char → Option α) (s : List Char) :
    (of f s).shortest = of (Text.shortest f) s := by
  induction s with
  | nil => rfl
  | cons c s ih => simp only [of, shortest, ih, here_of, Text.shortest]

theorem spacedPhrase_of (f : List Char → Option α) (options : List (List Char)) (s : List Char) :
    (of f s).spacedPhrase options = of (Text.spacedPhrase options f) s := by
  induction options with
  | nil => exact remade_of (fun _ => rfl) s
  | cons word options ih =>
    rw [spacedPhrase, ih, phrase_of, many1_of, either_of]
    congr 1
    funext s
    simp only [Text.spacedPhrase, List.findSome?_cons]
    cases Text.many1 isBlank (fun rest => (phrase? word rest).bind f) s <;> rfl

theorem atStop_of (f : List Char → Option α) (stop : Char) (s : List Char) :
    (of f s).atStop stop = of (fun s => (Text.atStop stop s).bind fun _ => f s) s := by
  refine remade_of (fun s => ?_) s
  cases s with
  | nil => rfl
  | cons c s => simp only [of, Text.atStop]; split <;> rfl

theorem leftmost_of (f : List Char → Option α) (s : List Char) :
    (of f s).leftmost? = search f s := by
  induction s with
  | nil => rfl
  | cons c s ih => simp only [of, leftmost?, ih, search]

theorem leftmostOnLine_of (f : List Char → Option α) (fresh : Bool) (s : List Char) :
    (of f s).leftmostOnLine? fresh = searchLines f fresh s := by
  induction s generalizing fresh with
  | nil => rfl
  | cons c s ih => simp only [of, leftmostOnLine?, ih, searchLines]

end Places

end TestPlanner.Text
