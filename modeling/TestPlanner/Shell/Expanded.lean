import TestPlanner.Shell.Pattern
import TestPlanner.Shell.State

/-!
# Expanded words

What becomes of a word after its parameters, scripts and sums have their values: characters, each
quoted or not, which are split into several words, and the files whose paths match them as patterns.
-/

set_option autoImplicit false

namespace TestPlanner.Shell

open Files (Workspace)

/-- A part of an expanded word. -/
inductive Mark where
  | glyph (g : Glyph)
  /-- where one argument ends and the next begins -/
  | gap
  /-- quotes, which make a word even if nothing is in them -/
  | quotes
  deriving DecidableEq, Repr

/-- A text as marks. -/
def marks (quoted splits : Bool) (s : List Char) : List Mark :=
  s.map fun c => .glyph ⟨c, quoted, splits⟩

/-- Marks at which the word may be split unless they are quoted. -/
def loosened (ms : List Mark) : List Mark :=
  ms.map fun m =>
    match m with
    | .glyph g => .glyph { g with splits := g.splits || !g.quoted }
    | m => m

/-- The glyphs of marks. -/
def glyphs : List Mark → List Glyph
  | [] => []
  | .glyph g :: ms => g :: glyphs ms
  | .gap :: ms => ⟨' ', true, false⟩ :: glyphs ms
  | .quotes :: ms => glyphs ms

/-- The text of marks. -/
def markedText (ms : List Mark) : String := String.ofList ((glyphs ms).map Glyph.char)

/-- The words that marks make when they are split at separators. Separators that are blanks count
once for several; each other one ends a word. `current` is the open word, its last glyph first, and
`closed` tells that a blank ended the last word. -/
def fields (separators : List Char) (current : Option (List Glyph)) (closed : Bool) :
    List Mark → List (List Glyph)
  | [] => (current.map List.reverse).toList
  | .quotes :: ms => fields separators (some (current.getD [])) false ms
  | .gap :: ms => (current.map List.reverse).toList ++ fields separators none false ms
  | .glyph g :: ms =>
    if g.splits && separators.contains g.char then
      let isBlank := g.char == ' ' || g.char == '\t' || g.char == '\n'
      match current with
      | some w => w.reverse :: fields separators none isBlank ms
      | none =>
        if isBlank then fields separators none closed ms
        else if closed then fields separators none false ms
        else [] :: fields separators none false ms
    else fields separators (some (g :: current.getD [])) false ms

/-! ## Patterns of paths -/

/-- Whether a word has a pattern in it. -/
def hasPattern (w : List Glyph) : Bool :=
  w.any fun g => !g.quoted && (g.char == '*' || g.char == '?' || g.char == '[')

/-- The names in a directory, in order. -/
def namesIn (w : Workspace) (path : String) : List String :=
  match w.locate path with
  | .ok p => ((w.tree.below p).filterMap fun e =>
      match e.1 with
      | [name] => some name
      | _ => none).mergeSort fun a b => a ≤ b
  | .error _ => []

/-- The paths that match the components of a pattern, seen from a path with its slash. -/
def matchingPaths (w : Workspace) (before : String) : List (List Glyph) → List String
  | [] => [before]
  | part :: parts =>
    let slash := if parts.isEmpty then "" else "/"
    let names :=
      if hasPattern part then
        let pattern := Pattern.ofWord part
        (namesIn w (if before.isEmpty then "." else before)).filter fun name =>
          pattern.describes name &&
            (!name.startsWith "." || part.head?.map Glyph.char == some '.')
      else [String.ofList (part.map Glyph.char)]
    names.flatMap fun name =>
      let path := before ++ name
      if parts.isEmpty then if w.has path || name.isEmpty then [path] else []
      else if w.isDirectory (path ++ "/") || name.isEmpty then
        matchingPaths w (path ++ slash) parts
      else []

/-- The words that a word stands for: the paths that match it if it is a pattern, and otherwise
itself. -/
def matchingWords (st : State) (w : List Glyph) : List String :=
  let text := String.ofList (w.map Glyph.char)
  if st.options.contains 'f' || !hasPattern w then [text]
  else
    match matchingPaths st.workspace "" (w.splitOnP fun g => g.char == '/') with
    | [] => [text]
    | paths => paths

end TestPlanner.Shell
