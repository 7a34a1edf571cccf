/-!
# Options

How the words after a command are read. An option has a long name and perhaps a letter. It takes
nothing, one value, or all words that follow.

A value is the next word, unless that looks like an option, or follows the name after an equals sign
or, with a letter, directly. Letters may share a dash, of which the last one may take a value. A
word that is no option is the name of a subcommand or a mistake; a lone double dash ends the
options, and nothing may follow it.

Words are read from left to right, and the first that asks for help, asks for the version or is a
mistake decides. A value that is a word of its own is checked only when the next option is met or
the words end. So where the name of a subcommand comes next, it is checked after the words of the
subcommand.
-/

set_option autoImplicit false

namespace TestPlanner.CommandLine

/-- What stops the reading of words. -/
inductive Stop where
  | usage
  /-- help is asked for, in detail or as a summary -/
  | help (detailed : Bool)
  | version
  deriving DecidableEq, Repr

/-- What an option takes. -/
inductive Takes where
  | nothing
  /-- one value that satisfies a condition -/
  | one (accepts : String → Bool)
  | rest

/-- An option. -/
structure OptionSpec where
  long : String
  short : Option Char
  takes : Takes

/-- The options that were given, each with its values. -/
abbrev Given := List (String × List String)

namespace Given

/-- Whether an option was given. -/
def has (g : Given) (name : String) : Bool := (g.lookup name).isSome

/-- The value of an option. -/
def value? (g : Given) (name : String) : Option String :=
  (g.lookup name).bind List.head?

/-- All values of an option. -/
def values (g : Given) (name : String) : List String := (g.lookup name).getD []

end Given

/-- The option that asks for help. -/
def helpOption : OptionSpec := ⟨"help", some 'h', .nothing⟩

/-- The option that asks for the version. -/
def versionOption : OptionSpec := ⟨"version", some 'V', .nothing⟩

/-- Adds an option without a value; `isLong` tells whether its long name was used. -/
def addFlag (g : Given) (isLong : Bool) (name : String) : Except Stop Given :=
  if name == helpOption.long then .error (.help isLong)
  else if name == versionOption.long then .error .version
  else if g.has name then .error .usage
  else .ok (g ++ [(name, [])])

/-- Adds an option with a value. Only an option that takes all words may be given again. -/
def addValue (g : Given) (spec : OptionSpec) (value : String) : Except Stop Given :=
  match spec.takes with
  | .nothing => .error .usage
  | .one accepts =>
    if g.has spec.long || !accepts value then .error .usage
    else .ok (g ++ [(spec.long, [value])])
  | .rest =>
    .ok ((g.filter fun e => !(e.1 == spec.long)) ++ [(spec.long, g.values spec.long ++ [value])])

/-- A value that is still to be checked, with its option. -/
abbrev Waiting := Option (OptionSpec × String)

/-- Adds a value that waited to be checked. -/
def settle (g : Given) : Waiting → Except Stop Given
  | none => .ok g
  | some (spec, value) => addValue g spec value

/-- What is known after some words: the options given, a value that waits, and the words left. -/
structure Progress where
  given : Given
  waiting : Waiting := none
  words : List String

/-- Whether a word looks like an option. -/
def looksLikeOption (word : String) : Bool :=
  match word.toList with
  | '-' :: _ :: _ => true
  | _ => false

/-- Adds an option that finds its value in the words that follow. -/
def addFromWords (g : Given) (spec : OptionSpec) (words : List String) : Except Stop Progress :=
  match spec.takes with
  | .nothing => (addFlag g true spec.long).map fun g => ⟨g, none, words⟩
  | .one _ =>
    match words with
    | [] => .error .usage
    | value :: rest =>
      if looksLikeOption value then .error .usage else .ok ⟨g, some (spec, value), rest⟩
  | .rest =>
    if words.isEmpty then .error .usage
    else (words.foldlM (fun g word => addValue g spec word) g).map fun g => ⟨g, none, []⟩

/-- Adds the options whose letters share a dash. -/
def addLetters (specs : List OptionSpec) (g : Given) (words : List String) :
    List Char → Except Stop Progress
  | [] => .ok ⟨g, none, words⟩
  | c :: s =>
    match specs.find? fun spec => spec.short == some c with
    | none => .error .usage
    | some spec =>
      match spec.takes with
      | .nothing =>
        match addFlag g false spec.long with
        | .ok g => addLetters specs g words s
        | .error stop => .error stop
      | _ =>
        if s.isEmpty then addFromWords g spec words
        else
          let value := match s with
            | '=' :: s => s
            | s => s
          (addValue g spec (String.ofList value)).map fun g => ⟨g, none, words⟩

/-- Adds the option of a word with two dashes, given the characters after these. -/
def addLong (specs : List OptionSpec) (g : Given) (words : List String) (s : List Char) :
    Except Stop Progress :=
  let name := String.ofList (s.takeWhile (· != '='))
  match specs.find? fun spec => spec.long == name with
  | none => .error .usage
  | some spec =>
    match s.dropWhile (· != '=') with
    | [] => addFromWords g spec words
    | _ :: value => (addValue g spec (String.ofList value)).map fun g => ⟨g, none, words⟩

/-- What the words of a level come to: the options given, a value that waits for its check, and the
name of a subcommand with the words after it. Only before a subcommand a value still waits. -/
structure Level where
  given : Given
  waiting : Waiting := none
  next : Option (String × List String) := none

/-- Reads words up to the name of a subcommand. -/
def readWords (specs : List OptionSpec) (subcommands : List String) :
    (limit : Nat) → Progress → Except Stop Level
  | 0, p => (settle p.given p.waiting).map fun g => ⟨g, none, none⟩
  | limit + 1, ⟨g, waiting, words⟩ =>
    match words with
    | [] => (settle g waiting).map fun g => ⟨g, none, none⟩
    | word :: words =>
      if subcommands.contains word then .ok ⟨g, waiting, some (word, words)⟩
      else do
        let g ← settle g waiting
        let next ← match word.toList with
          | ['-', '-'] => if words.isEmpty then .ok ⟨g, none, []⟩ else .error .usage
          | '-' :: '-' :: s => addLong specs g words s
          | '-' :: c :: s => addLetters specs g words (c :: s)
          | _ => .error .usage
        readWords specs subcommands limit next

/-- Reads the words of a level: its own options, help and version included. -/
def readLevel (specs : List OptionSpec) (subcommands words : List String) : Except Stop Level :=
  readWords (specs ++ [helpOption, versionOption]) subcommands (words.length + 1) ⟨[], none, words⟩

end TestPlanner.CommandLine
