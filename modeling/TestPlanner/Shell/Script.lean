import TestPlanner.Shell.Word

/-!
# Reading scripts

A script is read line by line, a line with an open command going on until the command is complete.
What is read are the steps of the line; a mistake in a later line does not keep earlier ones from
being run.

A word is reserved only where a command may start, and only if no character of it is quoted. The
scripts inside words are read with them, so that a mistake in one of them is a mistake of its line.

Each function is given a bound on the depth of its calls, and how many lines end in the script.
-/

set_option autoImplicit false

namespace TestPlanner.Shell

/-! ## Tokens -/

/-- What a script is read as. -/
inductive Token where
  | word (w : Word)
  /-- an operator, or the end of a line -/
  | operator (name : String)
  | redirection (channel : Nat) (kind : Redirecting)
  /-- the redirection to a text, which may be indented with tabs -/
  | document (channel : Nat) (indented : Bool)
  | ended

/-- The operator that ends lines. -/
def lineEnd : String := "newline"

namespace Token

/-- Whether a token is an operator. -/
def isOperator (name : String) : Token → Bool
  | .operator n => n == name
  | _ => false

/-- Whether a token is the end of the script. -/
def isEnd : Token → Bool
  | .ended => true
  | _ => false

end Token

/-- A text without the blanks and comments at its front. -/
def skipBlanks : List Char → List Char
  | '\\' :: '\n' :: s => skipBlanks s
  | '#' :: s => s.dropWhile (· != '\n')
  | c :: s => if isSpace c || c == takenLine then skipBlanks s else c :: s
  | [] => []

/-- A text without the blanks, comments and ends of lines at its front. -/
def skipLines : (fuel : Nat) → List Char → List Char
  | 0, s => s
  | fuel + 1, s =>
    match skipBlanks s with
    | '\n' :: s => skipLines fuel s
    | s => s

/-- The kind of a redirection after its angle bracket. -/
def redirecting (channel : Nat) (bracket : Char) (s : List Char) : Token × List Char :=
  match bracket, s with
  | '<', '<' :: '-' :: s => (.document channel true, s)
  | '<', '<' :: s => (.document channel false, s)
  | '<', '&' :: s => (.redirection channel .join, s)
  | '<', '>' :: s => (.redirection channel .read, s)
  | '<', s => (.redirection channel .read, s)
  | _, '>' :: s => (.redirection channel .append, s)
  | _, '&' :: s => (.redirection channel .join, s)
  | _, '|' :: s => (.redirection channel .overwrite, s)
  | _, s => (.redirection channel .write, s)

/-- The token at the front of a text, unless it is a word. -/
def sign? (s : List Char) : Option (Token × List Char) :=
  match s with
  | [] => some (.ended, [])
  | c :: rest =>
    match c, skipJoined rest with
    | '&', '&' :: rest => some (.operator "&&", rest)
    | '|', '|' :: rest => some (.operator "||", rest)
    | ';', ';' :: rest => some (.operator ";;", rest)
    | '<', rest => some (redirecting 0 '<' rest)
    | '>', rest => some (redirecting 1 '>' rest)
    | c, next =>
      if c == '\n' then some (.operator lineEnd, rest)
      else if c == ';' || c == '&' || c == '|' || c == '(' || c == ')' then
        some (.operator c.toString, rest)
      else
        match c.isDigit, next with
        | true, '<' :: rest => some (redirecting (c.toNat - '0'.toNat) '<' rest)
        | true, '>' :: rest => some (redirecting (c.toNat - '0'.toNat) '>' rest)
        | _, _ => none

/-! ## Reserved words -/

/-- The reserved words. -/
def reservedWords : List String :=
  ["if", "then", "else", "elif", "fi", "do", "done", "case", "esac", "while", "until", "for", "in",
    "\x7b", "\x7d", "!"]

/-- The reserved words that end lists of commands. -/
def closingWords : List String := ["then", "else", "elif", "fi", "do", "done", "esac", "\x7d"]

/-- The commands whose mistakes end a script, and whose assignments stay. -/
def specialNames : List String :=
  [".", ":", "break", "continue", "eval", "exec", "exit", "export", "local", "readonly", "return",
    "set", "shift", "times", "trap", "unset"]

/-- The reserved word that a token is. -/
def reserved? : Token → Option String
  | .word w => (plainText? w).bind fun s => reservedWords.find? (· == String.ofList s)
  | _ => none

/-- Whether a character of a word stands for itself. -/
def isPlain (c : Char) : Bool :=
  !endsWord c && c != '\\' && c != '\'' && c != '"' && c != '$' && c != '\x60'

/-- The token at the front of a text, but a word that is not reserved is left as it is. -/
def front (s : List Char) : Token × List Char :=
  let s := skipBlanks s
  match sign? s with
  | some r => r
  | none =>
    let (letters, rest) := nameChars isPlain s
    let isWhole := match rest with
      | [] => true
      | c :: _ => endsWord c
    if isWhole && reservedWords.contains (String.ofList letters) then
      (.word [.text false letters], rest)
    else (.word [], s)

/-- Whether a token ends a list of commands. -/
def closesList (t : Token) : Bool :=
  (reserved? t).any closingWords.contains || t.isOperator ";;" || t.isOperator ")"

/-- What a token is called in messages; `keyed` tells whether reserved words count. -/
def tokenName (keyed : Bool) (t : Token) : String :=
  match t with
  | .ended => "end of file"
  | .operator name => if name == lineEnd then name else "\"" ++ name ++ "\""
  | .redirection .. => "redirection"
  | .document .. => "redirection"
  | .word _ =>
    match reserved? t with
    | some name => if keyed then "\"" ++ name ++ "\"" else "word"
    | none => "word"

/-- The mistake that a token stands where another is expected. -/
def unexpected {α : Type} (keyed : Bool) (expected : Option String) (t : Token) (line : Nat) :
    Except Fault α :=
  .error ⟨tokenName keyed t ++ " unexpected" ++
    (match expected with
      | some name =>
        if name == "word" then " (expecting word)" else " (expecting \"" ++ name ++ "\")"
      | none => ""), line⟩

/-! ## Commands and words -/

/-- The name and the value of a word that is an assignment. -/
def assignment? : (name : List Char) → Word → Option (String × Word)
  | name, .text false [c] :: ps =>
    if c == '=' then if isName name.reverse then some (String.ofList name.reverse, ps) else none
    else if isNameChar c then assignment? (c :: name) ps
    else none
  | _, _ => none

/-- The parts of a simple command that were read so far. -/
structure Parts where
  assignments : List (String × Word)
  words : List Word
  redirections : List Redirection

/-- A command with redirections, if there are any. -/
def Command.withRedirections (line : Nat) (c : Command) (rs : List Redirection) : Command :=
  if rs.isEmpty then c else .redirected line c rs

/-- The steps of a list that is put into the background, as one. -/
def inBackground (isWanted : Bool) (steps : List Step) : List Step :=
  if isWanted then [.mk .always false true [.apart steps]] else steps

/-- The mistake of a script that is nested too deeply to be read. -/
def tooDeep {α : Type} : Except Fault α := .error ⟨"end of file unexpected", 0⟩

mutual
/-- Reads pieces where they stand, up to what ends them there. -/
def pieces (total : Nat) : (fuel : Nat) → Place → List Char → Except Fault (Left (List Piece))
  | 0, _, _ => tooDeep
  | _ + 1, p, [] =>
    match p.endFault? with
    | some message => .error ⟨message, lineOf total []⟩
    | none => .ok ([], [])
  | fuel + 1, p, c :: s =>
    let after (front : List Piece) (p : Place) (s : List Char) :
        Except Fault (Left (List Piece)) :=
      (pieces total fuel p s).map fun r => (front ++ r.1, r.2)
    if c == '\\' then
      match s with
      | [] => .ok ([.text p.quotes ['\\']], [])
      | e :: rest =>
        if e == '\n' then after [] p rest
        else if p.escapes e then after [.text true [e]] p rest
        else after [.text true ['\\']] p s
    else if c == '\x60' then
      match untilBackquote? p.quotes s with
      | none => .error ⟨"EOF in backquote substitution", lineOf total []⟩
      | some (script, rest) => do
        let (steps, _) ← list (lineEnds script) fuel false script
        after [.output p.quotes steps] p rest
    else if c == '$' then do
      let (piece, rest) ← dollar total fuel p s
      after [piece] p rest
    else if c == '"' && p.hasQuotes then do
      let (inner, rest) ← pieces total fuel .double s
      let isArguments := match inner with
        | [.parameter true ['@'] .plain _] => true
        | _ => false
      after (if p.quotes || isArguments then inner else .text true [] :: inner) p rest
    else if c == '\'' && p.hasQuotes && !p.quotes then
      match untilQuote? s with
      | some (inner, rest) => after [.text true inner] p rest
      | none => .error ⟨"Unterminated quoted string", lineOf total []⟩
    else if p.ends c then .ok ([], if p == .word then c :: s else s)
    else
      match p, c with
      | .sum depth, '(' => after [.text true ['(']] (.sum (depth + 1)) s
      | .sum (depth + 1), ')' => after [.text true [')']] (.sum depth) s
      | .sum 0, ')' =>
        match skipJoined s with
        | ')' :: rest => .ok ([], rest)
        | _ => after [.text true [')']] p s
      | p, c => after [.text p.quotes [c]] p s

/-- Reads what follows a dollar sign. Before anything else it stands for itself. -/
def dollar (total : Nat) : (fuel : Nat) → Place → List Char → Except Fault (Left Piece)
  | 0, _, _ => tooDeep
  | fuel + 1, p, s =>
    match skipJoined s with
    | '(' :: s =>
      match skipJoined s with
      | '(' :: inner => do
        let (expression, rest) ← pieces total fuel (.sum 0) inner
        pure (.sum p.quotes expression, rest)
      | s => do
        let (steps, s) ← list total fuel false s
        let s := skipLines s.length s
        let (t, rest) := front s
        if t.isOperator ")" then pure (.output p.quotes steps, rest)
        else mismatch total fuel true (some ")") s
    | '\x7b' :: s =>
      match skipJoined s with
      | '#' :: rest =>
        let (name, after) := bracedName rest
        match name.isEmpty, after with
        | false, '\x7d' :: rest => .ok (.parameter p.quotes name .length [], rest)
        | _, _ => braced total fuel p ['#'] (skipJoined rest)
      | s =>
        let (name, after) := bracedName s
        braced total fuel p name after
    | c :: s =>
      if c.isDigit || signNames.contains c then .ok (.parameter p.quotes [c] .plain [], s)
      else if isNameChar c then
        let (name, rest) := nameChars isNameChar (c :: s)
        .ok (.parameter p.quotes name .plain [], rest)
      else .ok (.text p.quotes ['$'], c :: s)
    | [] => .ok (.text p.quotes ['$'], [])

/-- Reads the modifier and the operand after the name of a parameter in braces. -/
def braced (total : Nat) :
    (fuel : Nat) → Place → (name : List Char) → List Char → Except Fault (Left Piece)
  | 0, _, _, _ => tooDeep
  | fuel + 1, p, name, s =>
    match name.isEmpty, s with
    | false, '\x7d' :: rest => .ok (.parameter p.quotes name .plain [], rest)
    | true, '\x7d' :: rest => .ok (.parameter p.quotes name .unknown [], rest)
    | _, s => do
      let (m, s) := if name.isEmpty then (.unknown, s.tail) else modifier s
      let isPattern := match m with
        | .trim .. => true
        | _ => false
      let (operand, rest) ←
        pieces total fuel (.operand (p.quotes && !isPattern) p.isInDocument) s
      pure (.parameter p.quotes name m operand, rest)

/-- Reads a token. -/
def token (total : Nat) : (fuel : Nat) → List Char → Except Fault (Left Token)
  | 0, _ => tooDeep
  | fuel + 1, s =>
    let s := skipBlanks s
    match sign? s with
    | some r => .ok r
    | none => do
      let (w, rest) ← pieces total fuel .word s
      pure (.word w, rest)

/-- The mistake that a text starts with a token where another is expected; a mistake in the token
itself comes first. -/
def mismatch {α : Type} (total : Nat) :
    (fuel : Nat) → (keyed : Bool) → (expected : Option String) → List Char → Except Fault α
  | 0, _, _, _ => tooDeep
  | fuel + 1, keyed, expected, s => do
    let (t, rest) ← token total fuel s
    unexpected keyed expected t (lineOf total rest)

/-- Reads a reserved word after any ends of lines. -/
def expectWord (total : Nat) : (fuel : Nat) → String → List Char → Except Fault (List Char)
  | 0, _, _ => tooDeep
  | fuel + 1, name, s =>
    let s := skipLines s.length s
    let (t, rest) := front s
    if reserved? t == some name then .ok rest else mismatch total fuel true (some name) s

/-- Reads the word of a redirection. -/
def redirection (total : Nat) :
    (fuel : Nat) → Token → List Char → Except Fault (Left Redirection)
  | 0, _, _ => tooDeep
  | fuel + 1, t, s => do
    let (target, rest) ← token total fuel s
    match t, target with
    | .redirection channel kind, .word w => pure (.mk channel kind w, rest)
    | .document channel indented, .word _ =>
      let (name, quoted, rest) := delimiter s.length (skipBlanks s)
      let d := takenDocument total name indented (!quoted) rest
      if quoted then pure (.mk channel .here [.text true d.text], d.rest)
      else
        let (body, _) ← pieces (d.line + lineEnds d.text - 1) fuel .document d.text
        pure (.mk channel .here body, d.rest)
    | _, target => unexpected false none target (lineOf total rest)

/-- Reads redirections as long as there are any. -/
def redirections (total : Nat) :
    (fuel : Nat) → List Char → Except Fault (Left (List Redirection))
  | 0, _ => tooDeep
  | fuel + 1, s => do
    let (t, rest) := front s
    match t with
    | .redirection .. | .document .. =>
      let (r, s) ← redirection total fuel t rest
      let (rs, s) ← redirections total fuel s
      pure (r :: rs, s)
    | _ => pure ([], s)

/-- Reads words up to a token that is none. -/
def words (total : Nat) : (fuel : Nat) → List Char → Except Fault (Left (List Word))
  | 0, _ => tooDeep
  | fuel + 1, s => do
    let (t, rest) ← token total fuel s
    match t with
    | .word w =>
      let (ws, s) ← words total fuel rest
      pure (w :: ws, s)
    | _ => pure ([], s)

/-- Reads the patterns of a clause and the parenthesis after them. -/
def patterns (total : Nat) : (fuel : Nat) → List Char → Except Fault (Left (List Word))
  | 0, _ => tooDeep
  | fuel + 1, s => do
    let (t, rest) ← token total fuel s
    match t with
    | .word w =>
      let (t, rest) ← token total fuel rest
      if t.isOperator "|" then
        let (ws, s) ← patterns total fuel rest
        pure (w :: ws, s)
      else if t.isOperator ")" then pure ([w], rest)
      else unexpected false (some ")") t (lineOf total rest)
    | _ =>
      let (t, rest) ← token total fuel rest
      unexpected false (some ")") t (lineOf total rest)

/-- Reads a list of commands; `required` tells whether there must be one. -/
def list (total : Nat) :
    (fuel : Nat) → (required : Bool) → List Char → Except Fault (Left (List Step))
  | 0, _, _ => tooDeep
  | fuel + 1, required, s => do
    let s := skipLines s.length s
    let (t, _) := front s
    if t.isEnd || (!required && closesList t) then pure ([], s)
    else do
      let (steps, s) ← chain total fuel .always s
      let (t, rest) := front s
      if t.isOperator ";" || t.isOperator lineEnd || t.isOperator "&" then
        let (more, s) ← list total fuel false rest
        pure (inBackground (t.isOperator "&") steps ++ more, s)
      else pure (steps, s)

/-- Reads pipelines between which success or failure decides. -/
def chain (total : Nat) : (fuel : Nat) → Condition → List Char → Except Fault (Left (List Step))
  | 0, _, _ => tooDeep
  | fuel + 1, condition, s => do
    let (t, rest) := front s
    let negated := reserved? t == some "!"
    let (commands, s) ← pipeline total fuel (if negated then rest else s)
    let step := Step.mk condition negated false commands
    let (t, rest) := front s
    let next : Option Condition :=
      if t.isOperator "&&" then some .afterSuccess
      else if t.isOperator "||" then some .afterFailure
      else none
    match next with
    | some condition =>
      let (more, s) ← chain total fuel condition (skipLines rest.length rest)
      pure (step :: more, s)
    | none => pure ([step], s)

/-- Reads the commands of a pipeline. -/
def pipeline (total : Nat) : (fuel : Nat) → List Char → Except Fault (Left (List Command))
  | 0, _ => tooDeep
  | fuel + 1, s => do
    let (c, s) ← command total fuel s
    let (t, rest) := front s
    if t.isOperator "|" then
      let (cs, s) ← pipeline total fuel (skipLines rest.length rest)
      pure (c :: cs, s)
    else pure ([c], s)

/-- Reads a command. -/
def command (total : Nat) : (fuel : Nat) → List Char → Except Fault (Left Command)
  | 0, _ => tooDeep
  | fuel + 1, s => do
    let (t, rest) := front s
    let line := lineOf total rest
    let redirected (c : Command) (s : List Char) : Except Fault (Left Command) := do
      let (rs, s) ← redirections total fuel s
      pure (c.withRedirections line rs, s)
    match reserved? t with
    | some name =>
      if name == "if" then
        let (c, s) ← branch total fuel rest
        redirected c s
      else if name == "while" || name == "until" then
        let (condition, s) ← list total fuel true rest
        let s ← expectWord total fuel "do" s
        let (body, s) ← list total fuel true s
        let s ← expectWord total fuel "done" s
        redirected (.loop (name == "until") condition body) s
      else if name == "for" then
        let (c, s) ← each total fuel line rest
        redirected c s
      else if name == "case" then
        let (subject, rest) ← token total fuel rest
        match subject with
        | .word subject =>
          let s ← expectWord total fuel "in" rest
          let (clauses, s) ← clauses total fuel s
          redirected (.select line subject clauses) s
        | t => unexpected false (some "word") t (lineOf total rest)
      else if name == "\x7b" then
        let (body, s) ← list total fuel true rest
        let s ← expectWord total fuel "\x7d" s
        redirected (.group body) s
      else unexpected true none t line
    | none =>
      if t.isOperator "(" then
        let (body, s) ← list total fuel true rest
        let s := skipLines s.length s
        let (t, rest) := front s
        if t.isOperator ")" then redirected (.apart body) rest
        else mismatch total fuel true (some ")") s
      else
        match t with
        | .operator _ => unexpected true none t (lineOf total rest)
        | .ended => unexpected true none t (lineOf total rest)
        | _ => simple total fuel line ⟨[], [], []⟩ s

/-- Reads what follows `if` or `elif`. -/
def branch (total : Nat) : (fuel : Nat) → List Char → Except Fault (Left Command)
  | 0, _ => tooDeep
  | fuel + 1, s => do
    let (condition, s) ← list total fuel true s
    let s ← expectWord total fuel "then" s
    let (body, s) ← list total fuel true s
    let s := skipLines s.length s
    let (t, rest) := front s
    match reserved? t with
    | some "elif" =>
      let (other, s) ← branch total fuel rest
      pure (.branch condition body [.mk .always false false [other]], s)
    | some "else" =>
      let (otherwise, s) ← list total fuel true rest
      let s ← expectWord total fuel "fi" s
      pure (.branch condition body otherwise, s)
    | some "fi" => pure (.branch condition body [], rest)
    | _ => mismatch total fuel true (some "fi") s

/-- Reads what follows `for`. -/
def each (total : Nat) : (fuel : Nat) → (line : Nat) → List Char → Except Fault (Left Command)
  | 0, _, _ => tooDeep
  | fuel + 1, line, s => do
    let (t, rest) ← token total fuel s
    let name := match t with
      | .word w => (plainText? w).filter isName
      | _ => none
    match name with
    | none => .error ⟨"Bad for loop variable", lineOf total rest⟩
    | some name =>
      let (t, after) := front (skipLines rest.length rest)
      let (ws, s) ←
        if reserved? t == some "in" then do
          let (ws, s) ← words total fuel after
          let (t, rest) := front s
          if t.isOperator ";" || t.isOperator lineEnd then pure (some ws, rest)
          else mismatch total fuel false none s
        else if t.isOperator ";" then pure (none, after)
        else pure (none, rest)
      let s ← expectWord total fuel "do" s
      let (body, s) ← list total fuel true s
      let s ← expectWord total fuel "done" s
      pure (.each line (String.ofList name) ws body, s)

/-- Reads the clauses after `in` and the word that ends them. -/
def clauses (total : Nat) :
    (fuel : Nat) → List Char → Except Fault (Left (List (List Word × List Step)))
  | 0, _ => tooDeep
  | fuel + 1, s => do
    let s := skipLines s.length s
    let (t, rest) := front s
    if reserved? t == some "esac" then pure ([], rest)
    else do
      let (ps, s) ← patterns total fuel (if t.isOperator "(" then rest else s)
      let (body, s) ← list total fuel false s
      let s := skipLines s.length s
      let (t, rest) := front s
      if t.isOperator ";;" then
        let (more, s) ← clauses total fuel rest
        pure ((ps, body) :: more, s)
      else if reserved? t == some "esac" then pure ([(ps, body)], rest)
      else mismatch total fuel true (some ";;") s

/-- Reads the rest of a simple command. A name with a pair of parentheses defines a function. -/
def simple (total : Nat) :
    (fuel : Nat) → (line : Nat) → Parts → List Char → Except Fault (Left Command)
  | 0, _, _, _ => tooDeep
  | fuel + 1, line, parts, s => do
    let (t, rest) ← token total fuel s
    -- a command is in the line in which its first word ends
    let line := match parts with
      | ⟨[], [], []⟩ => lineOf total rest
      | _ => line
    match t with
    | .word w =>
      match if parts.words.isEmpty then assignment? [] w else none with
      | some a =>
        simple total fuel line { parts with assignments := parts.assignments ++ [a] } rest
      | none => simple total fuel line { parts with words := parts.words ++ [w] } rest
    | .redirection .. | .document .. =>
      let (r, s) ← redirection total fuel t rest
      simple total fuel line { parts with redirections := parts.redirections ++ [r] } s
    | _ =>
      match t.isOperator "(", parts with
      | true, ⟨[], [w], []⟩ =>
        let (t, rest) ← token total fuel rest
        if !t.isOperator ")" then unexpected false (some ")") t (lineOf total rest)
        else
          match (plainText? w).filter fun s =>
            isName s && !specialNames.contains (String.ofList s) with
          | none => .error ⟨"Bad function name", lineOf total rest⟩
          | some name =>
            let (body, s) ← command total fuel (skipLines rest.length rest)
            pure (.define (String.ofList name) body, s)
      | _, _ => pure (.simple line parts.assignments parts.words parts.redirections, s)
end

/-- Reads the steps up to the end of a line. -/
def scriptLine (total : Nat) : (fuel : Nat) → List Char → Except Fault (Left (List Step))
  | 0, _ => tooDeep
  | fuel + 1, s => do
    let (t, rest) := front s
    if t.isEnd || t.isOperator lineEnd then pure ([], rest)
    else do
      let (steps, s) ← chain total fuel .always s
      let (t, rest) := front s
      if t.isEnd || t.isOperator lineEnd then pure (steps, rest)
      else if t.isOperator ";" || t.isOperator "&" then
        let (more, s) ← scriptLine total fuel rest
        pure (inBackground (t.isOperator "&") steps ++ more, s)
      else mismatch total fuel true none s

/-- The steps of the first line of a script, and the lines after it. Between two characters of a
script there are at most a word, a sum, a list, a chain, a pipeline, a command and its kind, so that
the bound on the depth is never met. -/
def firstLine (total : Nat) (s : List Char) : Except Fault (Left (List Step)) :=
  scriptLine total (10 * (s.length + 1)) s

end TestPlanner.Shell
