import TestPlanner.Shell.Syntax

/-!
# Parts of words

What does not depend on the commands that may stand inside words: where pieces can stand and what is
special there, quotes, the names and modifiers of parameters, and the texts that a script holds for
its commands to read.
-/

set_option autoImplicit false

namespace TestPlanner.Shell

/-- A mistake in the form of a script: its message, and the line it is found in. -/
structure Fault where
  message : String
  line : Nat
  deriving DecidableEq, Repr

/-- A result of reading, and the text that is left. -/
abbrev Left (α : Type) := α × List Char

/-- What is left in the place of a line that was taken out of a script. -/
def takenLine : Char := '\x00'

/-- How many lines end in a text, those counted that were taken out. -/
def lineEnds (s : List Char) : Nat := s.countP fun c => c == '\n' || c == takenLine

/-- The line that the rest of a script starts in, given how many lines end in the script. -/
def lineOf (total : Nat) (s : List Char) : Nat := 1 + total - lineEnds s

/-! ## Where pieces stand -/

/-- Where pieces stand. -/
inductive Place where
  | word
  /-- in double quotes -/
  | double
  /-- in the braces of a parameter, which is itself quoted or not and in a text for commands or
  not -/
  | operand (quoted inDocument : Bool)
  /-- in a sum, between so many parentheses of its own -/
  | sum (depth : Nat)
  /-- in a text for commands to read -/
  | document
  deriving DecidableEq, Repr

namespace Place

/-- Whether pieces are quoted by where they stand. -/
def quotes : Place → Bool
  | .word => false
  | .operand quoted _ => quoted
  | _ => true

/-- Whether double quotes are special. -/
def hasQuotes : Place → Bool
  | .word => true
  | .operand .. => true
  | _ => false

/-- Whether pieces stand in the braces of a parameter. -/
def isOperand : Place → Bool
  | .operand .. => true
  | _ => false

/-- Whether pieces stand in a text for commands to read. -/
def isInDocument : Place → Bool
  | .document => true
  | .operand _ inDocument => inDocument
  | _ => false

/-- Whether a backslash takes the special meaning from a character. -/
def escapes (p : Place) (c : Char) : Bool :=
  !p.quotes || c == '$' || c == '\x60' || c == '\\' || (c == '"' && p != .document) ||
    (c == '\x7d' && p.isOperand)

/-- Whether a character ends the pieces that stand somewhere. -/
def ends (p : Place) (c : Char) : Bool :=
  match p with
  | .word => endsWord c
  | .double => c == '"'
  | .operand .. => c == '\x7d'
  | _ => false

/-- Why a text may not end where pieces stand, if it may not. -/
def endFault? : Place → Option String
  | .double => some "Unterminated quoted string"
  | .operand true false => some "Unterminated quoted string"
  | .operand .. => some "Missing '\x7d'"
  | .sum _ => some "Missing '))'"
  | _ => none

end Place

/-! ## Quotes -/

/-- Splits a text before the first of its single quotes. -/
def untilQuote? : List Char → Option (List Char × List Char)
  | [] => none
  | c :: s => if c == '\'' then some ([], s) else (untilQuote? s).map fun r => (c :: r.1, r.2)

/-- The script before the next backquote, without the backslashes that quote it, and what follows
the backquote. -/
def untilBackquote? (quoted : Bool) : List Char → Option (List Char × List Char)
  | [] => none
  | '\\' :: c :: s =>
    if c == '\x60' || c == '\\' || c == '$' || (quoted && c == '"') then
      (untilBackquote? quoted s).map fun r => (c :: r.1, r.2)
    else (untilBackquote? quoted s).map fun r => ('\\' :: c :: r.1, r.2)
  | c :: s =>
    if c == '\x60' then some ([], s) else (untilBackquote? quoted s).map fun r => (c :: r.1, r.2)

/-- A text without the joined line ends at its front. -/
def skipJoined : List Char → List Char
  | '\\' :: '\n' :: s => skipJoined s
  | s => s

/-! ## Parameters -/

/-- The parameters whose names are single signs. -/
def signNames : List Char := ['@', '*', '#', '?', '$', '!', '-']

/-- The characters at the front that can go on with a name, joined line ends left out. -/
def nameChars (belongs : Char → Bool) : List Char → List Char × List Char
  | '\\' :: '\n' :: s => nameChars belongs s
  | c :: s =>
    if belongs c then
      let (name, rest) := nameChars belongs s
      (c :: name, rest)
    else ([], c :: s)
  | [] => ([], [])

/-- The name of a parameter at the front of a text in braces; it is empty if there is none. -/
def bracedName (s : List Char) : List Char × List Char :=
  match skipJoined s with
  | [] => ([], [])
  | c :: rest =>
    if c.isDigit then nameChars Char.isDigit (c :: rest)
    else if isNameChar c then nameChars isNameChar (c :: rest)
    else if signNames.contains c then ([c], skipJoined rest)
    else ([], c :: rest)

/-- The modifier at the front of a text, after the name of a parameter. Whatever else stands there
is taken for a modifier that means nothing. -/
def modifier (s : List Char) : Modifier × List Char :=
  match s with
  | '#' :: rest =>
    match skipJoined rest with
    | '#' :: s => (.trim false true, s)
    | s => (.trim false false, s)
  | '%' :: rest =>
    match skipJoined rest with
    | '%' :: s => (.trim true true, s)
    | s => (.trim true false, s)
  | s =>
    let (emptyToo, s) := match s with
      | ':' :: rest => (true, skipJoined rest)
      | s => (false, s)
    match s with
    | '\x7d' :: rest => (.plain, rest)
    | c :: rest =>
      match [('-', Fallback.use), ('=', .assign), ('?', .complain), ('+', .replace)].lookup c with
      | some kind => (.fallback kind emptyToo, rest)
      | none => (.unknown, rest)
    | [] => (.unknown, [])

/-! ## Texts for commands to read -/

/-- The word that ends a text: its characters, whether any was quoted, and what follows it. -/
def delimiter : (fuel : Nat) → List Char → List Char × Bool × List Char
  | 0, s => ([], false, s)
  | _, [] => ([], false, [])
  | fuel + 1, c :: s =>
    let quotedPart (part rest : List Char) :=
      let (text, _, rest) := delimiter fuel rest
      (part ++ text, true, rest)
    if endsWord c then ([], false, c :: s)
    else if c == '\\' then
      match s with
      | e :: rest => quotedPart [e] rest
      | [] => (['\\'], false, [])
    else if c == '\'' || c == '"' then
      let part := s.takeWhile (· != c)
      quotedPart part (s.drop (part.length + 1))
    else
      let (text, quoted, rest) := delimiter fuel s
      (c :: text, quoted, rest)

/-- The lines up to the one that ends a text, without the tabs at their fronts if asked for, and
what follows that line. A line that the one before it `continues` in does not end the text; lines
that a backslash joins do so only if asked for. -/
def documentLines (delimiter : List Char) (indented joins : Bool) :
    (fuel : Nat) → (continues : Bool) → List Char → List Char × List Char
  | 0, _, s => ([], s)
  | _, _, [] => ([], [])
  | fuel + 1, continues, s =>
    let line := s.takeWhile (· != '\n')
    let rest := s.drop line.length
    let line := if indented then line.dropWhile (· == '\t') else line
    if line == delimiter && !continues then ([], rest.drop 1)
    else
      match rest with
      | [] => (line, [])
      | _ :: rest =>
        let isOpen := joins && (line.reverse.takeWhile (· == '\\')).length % 2 == 1
        let (more, rest) := documentLines delimiter indented joins fuel isOpen rest
        (line ++ '\n' :: more, rest)

/-- A text of a script: what it holds, the line it starts in, and what is left of the script. -/
structure Document where
  text : List Char
  line : Nat
  rest : List Char

/-- Takes a text out of the lines after the one that asks for it. -/
def takenDocument (total : Nat) (delimiter : List Char) (indented joins : Bool)
    (s : List Char) : Document :=
  let line := s.takeWhile (· != '\n')
  match s.drop line.length with
  | [] => ⟨[], lineOf total [], s⟩
  | _ :: after =>
    let taken := after.takeWhile (· == takenLine)
    let body := after.drop taken.length
    let (text, rest) := documentLines delimiter indented joins body.length false body
    let ends := lineEnds body - lineEnds rest
    ⟨text, lineOf total body, line ++ '\n' :: taken ++ List.replicate ends takenLine ++ rest⟩

end TestPlanner.Shell
