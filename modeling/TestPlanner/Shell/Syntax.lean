/-!
# The form of shell scripts

A script is a sequence of steps, each run always or only after a success or a failure of the one
before it. A step is a pipeline of commands, and a command is simple - a program or a function with
its words - or made of further steps.

A word is made of pieces: text that stands for itself, the values of parameters, the output of
scripts and the values of sums. A piece in quotes is neither split into several words nor taken for
a pattern.
-/

set_option autoImplicit false

namespace TestPlanner.Shell

/-- What is done about a parameter that is not set. -/
inductive Fallback where
  /-- the operand is used instead -/
  | use
  /-- the operand is used instead and assigned -/
  | assign
  /-- the script ends with the operand as its message -/
  | complain
  /-- the operand is used if the parameter is set -/
  | replace
  deriving DecidableEq, Repr

/-- How the value of a parameter is changed where it is used. -/
inductive Modifier where
  | plain
  | length
  /-- a fallback, also for an empty value if asked for -/
  | fallback (kind : Fallback) (emptyToo : Bool)
  /-- the value without the part at one of its ends that a pattern matches -/
  | trim (atEnd longest : Bool)
  /-- a modifier that means nothing -/
  | unknown
  deriving DecidableEq, Repr

/-- What a redirection does with a channel. -/
inductive Redirecting where
  | read
  | write
  /-- writes even to a file that is to be kept -/
  | overwrite
  | append
  /-- joins the channel to another, or closes it -/
  | join
  /-- reads a text of the script itself -/
  | here
  deriving DecidableEq, Repr

/-- When a step is run. -/
inductive Condition where
  | always
  | afterSuccess
  | afterFailure
  deriving DecidableEq, Repr

mutual
/-- A piece of a word. -/
inductive Piece where
  | text (quoted : Bool) (s : List Char)
  | parameter (quoted : Bool) (name : List Char) (modifier : Modifier) (operand : List Piece)
  | output (quoted : Bool) (script : List Step)
  | sum (quoted : Bool) (expression : List Piece)

/-- A redirection of a channel. -/
inductive Redirection where
  | mk (channel : Nat) (kind : Redirecting) (word : List Piece)

/-- A command. -/
inductive Command where
  /-- a program or function with its words, in a line of the script -/
  | simple (line : Nat) (assignments : List (String × List Piece)) (words : List (List Piece))
      (redirections : List Redirection)
  | group (body : List Step)
  /-- a group that cannot change the state of the script -/
  | apart (body : List Step)
  | branch (condition body otherwise : List Step)
  /-- a loop that ends when its condition fails or, if inverted, succeeds -/
  | loop (inverted : Bool) (condition body : List Step)
  /-- a loop over words or, without any, over the script's arguments -/
  | each (line : Nat) (name : String) (words : Option (List (List Piece))) (body : List Step)
  | select (line : Nat) (subject : List Piece) (clauses : List (List (List Piece) × List Step))
  | define (name : String) (body : Command)
  | redirected (line : Nat) (c : Command) (redirections : List Redirection)

/-- A pipeline, and when it is run. A step in the background is waited for by nobody. -/
inductive Step where
  | mk (condition : Condition) (negated background : Bool) (commands : List Command)
end

/-- A word. -/
abbrev Word := List Piece

namespace Redirection

/-- The channel that is redirected. -/
def channel : Redirection → Nat
  | .mk channel _ _ => channel

/-- What is done with the channel. -/
def kind : Redirection → Redirecting
  | .mk _ kind _ => kind

/-- Where the channel is led, or what is read from it. -/
def word : Redirection → Word
  | .mk _ _ word => word

end Redirection

/-- Whether a character may stand in the name of a parameter. -/
def isNameChar (c : Char) : Bool := c.isAlphanum || c == '_'

/-- Whether a text can be the name of a variable. -/
def isName (s : List Char) : Bool :=
  match s with
  | c :: _ => !c.isDigit && s.all isNameChar
  | [] => false

/-- Spaces and tabs. -/
def isSpace (c : Char) : Bool := c == ' ' || c == '\t'

/-- Whether a character ends a word. -/
def endsWord (c : Char) : Bool :=
  isSpace c || c == '\n' || c == ';' || c == '&' || c == '|' || c == '<' || c == '>' ||
    c == '(' || c == ')'

/-- The text of a word without quotes, parameters and scripts. -/
def plainText? : Word → Option (List Char)
  | [] => some []
  | .text false s :: ps => (plainText? ps).map (s ++ ·)
  | _ => none

end TestPlanner.Shell
