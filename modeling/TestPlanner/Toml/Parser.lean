import TestPlanner.Toml.Scalar
import TestPlanner.Toml.Table

/-!
# Reading TOML

A document is a sequence of lines: headers, entries, comments and blank lines. A value may run over
several lines only inside the brackets of an array or the quotes of a long string.

Arrays and inline tables may be nested `nestingLimit` deep, and a key has at most as many parts.
-/

set_option autoImplicit false

namespace TestPlanner.Toml

/-- How deep values may be nested, and how many parts a key may have. -/
def nestingLimit : Nat := 79

/-- Reads a dotted key: the parts before the last, and the last. -/
def dottedKey? (s : List Char) : Option (List String × String × List Char) := do
  let (parts, rest) ← key? nestingLimit s
  let last ← parts.getLast?
  pure (parts.dropLast, last, rest)

/-- The rest of a text after spaces, line breaks and comments. Every comment has to end in a line
break; `inComment` tells whether the text starts in one. -/
def skipGap? (inComment : Bool) : List Char → Option (List Char)
  | [] => if inComment then none else some []
  | '\r' :: '\n' :: s => skipGap? false s
  | c :: s =>
    if c == '\n' then skipGap? false s
    else if inComment then (if isLineChar c then skipGap? true s else none)
    else if c == '#' then skipGap? true s
    else if isSpace c then skipGap? false s
    else some (c :: s)

/-- The rest of a text after a word. -/
def afterWord? : (word s : List Char) → Option (List Char)
  | [], s => some s
  | w :: word, c :: s => if w == c then afterWord? word s else none
  | _ :: _, [] => none

mutual
/-- Reads a value; `room` is how many arrays and inline tables may still be opened around values. -/
def value? : (fuel room : Nat) → List Char → Option (Toml × List Char)
  | 0, _, _ => none
  | _, _, [] => none
  | fuel + 1, room, c :: s =>
    if c == '"' || c == '\'' then
      (string? (c :: s)).map fun r => (.string (String.ofList r.1), r.2)
    else if c == '[' then
      match room with
      | 0 => none
      | room + 1 => (items? fuel room s).map fun r => (.array r.1, r.2)
    else if c == '\x7b' then
      match room with
      | 0 => none
      | room + 1 =>
        match skipSpace s with
        | '\x7d' :: rest => some (.table [], rest)
        | s => (members? fuel room .empty s).map fun r => (.table (entriesToToml r.1.entries), r.2)
    else if c == 't' then (afterWord? "rue".toList s).map fun rest => (.boolean true, rest)
    else if c == 'f' then (afterWord? "alse".toList s).map fun rest => (.boolean false, rest)
    else dateOrNumber? (c :: s)

/-- Reads the items of an array up to its closing bracket. -/
def items? : (fuel room : Nat) → List Char → Option (List Toml × List Char)
  | 0, _, _ => none
  | fuel + 1, room, s => do
    match ← skipGap? false s with
    | ']' :: rest => pure ([], rest)
    | s =>
      let (v, s) ← value? fuel room s
      match ← skipGap? false s with
      | ',' :: s =>
        let (vs, rest) ← items? fuel room s
        pure (v :: vs, rest)
      | ']' :: rest => pure ([v], rest)
      | _ => none

/-- Adds the members of an inline table up to its closing brace; there is at least one. -/
def members? : (fuel room : Nat) → Table → List Char → Option (Table × List Char)
  | 0, _, _, _ => none
  | fuel + 1, room, t, s => do
    let (path, key, s) ← dottedKey? s
    let s ← after? '=' s
    let (v, s) ← value? fuel room (skipSpace s)
    let t ← t.addValue path key v
    match skipSpace s with
    | ',' :: s => members? fuel room t s
    | '\x7d' :: rest => pure (t, rest)
    | _ => none
end

/-- The text after the rest of a line that holds nothing but a comment. -/
def afterLine? (s : List Char) : Option (List Char) :=
  let rest := match skipSpace s with
    | '#' :: s => s.dropWhile isLineChar
    | s => s
  if rest.isEmpty then some [] else lineBreak? rest

/-- Reads a line with a header or an entry; values may run over several lines. -/
def statement? (d : Draft) (s : List Char) : Option (Draft × List Char) := do
  match skipSpace s with
  | '[' :: '[' :: s =>
    let (path, key, s) ← dottedKey? s
    let rest ← afterLine? (← afterWord? [']', ']'] s)
    pure (← d.startElement (path ++ [key]), rest)
  | '[' :: s =>
    let (path, key, s) ← dottedKey? s
    let rest ← afterLine? (← after? ']' s)
    pure (← d.startTable (path ++ [key]), rest)
  | s =>
    let (path, key, s) ← dottedKey? s
    let s := skipSpace (← after? '=' s)
    let (v, s) ← value? (2 * s.length + 2) nestingLimit s
    let rest ← afterLine? s
    pure (← d.addValue path key v, rest)

/-- Reads the lines of a document into a draft. -/
def lines? : (fuel : Nat) → Draft → List Char → Option Draft
  | _, d, [] => some d
  | 0, _, _ => none
  | fuel + 1, d, s =>
    match afterLine? s with
    | some rest => lines? fuel d rest
    | none => (statement? d s).bind fun r => lines? fuel r.1 r.2

/-- The character that may stand in front of a text to mark its encoding. -/
def byteOrderMark : Char := '\uFEFF'

/-- Reads a document as the entries of its outermost table. A line takes at least one character,
so the fuel suffices for every document. -/
def parse? (text : String) : Option (List (String × Toml)) :=
  let s := match text.toList with
    | c :: s => if c == byteOrderMark then s else c :: s
    | [] => []
  (lines? s.length .empty s).bind Draft.finish

end TestPlanner.Toml
