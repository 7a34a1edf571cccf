import TestPlanner.CommandLine.Options
import TestPlanner.Configuration.Basic

/-!
# Invocations

What the command line asks for: one of the commands with its settings, and the settings that every
command takes. The latter may be given at any level; where several levels give one, the deepest
decides.
-/

set_option autoImplicit false

namespace TestPlanner.CommandLine

/-- How results are printed. -/
inductive Format where
  | table
  | json
  | yaml
  deriving DecidableEq, Repr, Inhabited

/-- The formats by their names. -/
def Format.names : List (String × Format) :=
  [("table", .table), ("json", .json), ("yaml", .yaml)]

/-- What a recording is made from. -/
structure RecordOptions where
  url : Option String
  name : Option String
  replay : Option String
  browser : Option Browser
  deriving DecidableEq, Repr

/-- What a text is taken from. -/
inductive TextInput where
  | file (path : String)
  | literal (text : String)
  deriving DecidableEq, Repr

/-- A command. -/
inductive Command where
  | record (options : RecordOptions)
  | text (input : TextInput) (name : String) (marking : Bool)
  | image (path name : String) (detector : List String)
  | initConfiguration (force : Bool)
  | showConfiguration
  deriving DecidableEq, Repr

/-- A command and the settings that every command takes. -/
structure Invocation where
  configuration : String
  outputRoot : Option String
  format : Format
  dry : Bool
  command : Command
  deriving DecidableEq, Repr

/-- What the words of a command line come to. -/
inductive Reading where
  | invocation (i : Invocation)
  /-- the version is asked for, at the command of this name -/
  | version (name : String)
  /-- help is asked for, on the command that these names lead to -/
  | help (detailed : Bool) (path : List String)
  | usage
  deriving DecidableEq, Repr

/-- The program's name. -/
def programName : String := "autodesign"

/-- The program's version. -/
def programVersion : String := "0.1.0"

/-- Accepts every value. -/
def anyValue : String → Bool := fun _ => true

/-- Accepts paths. -/
def isPath : String → Bool := fun s => !s.isEmpty

/-- The options that every command takes. -/
def globalSpecs : List OptionSpec :=
  [⟨"config", none, .one isPath⟩, ⟨"output", some 'o', .one isPath⟩,
    ⟨"format", none, .one fun s => (Format.names.lookup s).isSome⟩,
    ⟨"dry-run", none, .nothing⟩, ⟨"verbose", some 'v', .nothing⟩]

/-- The options of recordings. -/
def recordSpecs : List OptionSpec :=
  [⟨"url", some 'u', .one anyValue⟩, ⟨"name", some 'n', .one anyValue⟩,
    ⟨"replay", none, .one isPath⟩,
    ⟨"browser", none, .one fun s => (Browser.names.lookup s).isSome⟩]

/-- The options of texts. -/
def textSpecs : List OptionSpec :=
  [⟨"file", some 'f', .one isPath⟩, ⟨"text", some 't', .one anyValue⟩,
    ⟨"name", some 'n', .one anyValue⟩, ⟨"nlp", none, .nothing⟩]

/-- The options of images. -/
def imageSpecs : List OptionSpec :=
  [⟨"path", some 'p', .one isPath⟩, ⟨"name", some 'n', .one anyValue⟩,
    ⟨"detector-cmd", none, .rest⟩]

/-- The options of writing a configuration file. -/
def initSpecs : List OptionSpec := [⟨"force", none, .nothing⟩]

/-- The commands. -/
def commandNames : List String := ["record", "text", "image", "config", "help"]

/-- The commands on configurations. -/
def configNames : List String := ["init", "show", "help"]

/-- The command of the options given to recordings; the start address may come from the
environment. -/
def recordCommand (environment : Option String) (g : Given) : Command :=
  .record ⟨(g.value? "url").or environment, g.value? "name", g.value? "replay",
    (g.value? "browser").bind fun b => Browser.names.lookup b⟩

/-- The command of the options given to texts, of which either a file or a text is one. -/
def textCommand? (g : Given) : Option Command :=
  match g.value? "name", g.value? "file", g.value? "text" with
  | some name, some path, none => some (.text (.file path) name (g.has "nlp"))
  | some name, none, some text => some (.text (.literal text) name (g.has "nlp"))
  | _, _, _ => none

/-- The command of the options given to images. -/
def imageCommand? (g : Given) : Option Command :=
  match g.value? "path", g.value? "name" with
  | some path, some name => some (.image path name (g.values "detector-cmd"))
  | _, _ => none

/-- The invocation of a command, given the options of all levels, the deepest first. -/
def invocation (levels : List Given) (command : Command) : Invocation :=
  let last (name : String) : Option String := levels.findSome? fun g => g.value? name
  { configuration := (last "config").getD "autodesign.toml"
    outputRoot := last "output"
    format := ((last "format").bind fun f => Format.names.lookup f).getD .table
    dry := levels.any fun g => g.has "dry-run"
    command := command }

/-- What a stop at a command comes to; `path` are the names that lead to the command. -/
def stopped (path : List String) : Stop → Reading
  | .usage => .usage
  | .help detailed => .help detailed path
  | .version => .version ("-".intercalate (programName :: path))

/-- What the words after a command come to that has no subcommands. -/
def readLeaf (path : List String) (specs : List OptionSpec) (above : List Given)
    (command? : Given → Option Command) (words : List String) : Reading :=
  match readLevel (specs ++ globalSpecs) [] words with
  | .error stop => stopped path stop
  | .ok level =>
    match command? level.given with
    | some command => .invocation (invocation (level.given :: above) command)
    | none => .usage

/-- The commands that help can be asked on, as the names that lead to them. -/
def helpTopics : List (List String) :=
  [[], ["record"], ["text"], ["image"], ["config"], ["config", "init"], ["config", "show"],
    ["help"], ["config", "help"]]

/-- What the words after `help` come to. -/
def readHelp (path words : List String) : Reading :=
  if helpTopics.contains (path ++ words) then .help true (path ++ words) else .usage

/-- What a subcommand comes to, given the options before it. A mistake in the last of these counts
only if the subcommand asks neither for help nor for the version. -/
def afterLevel (level : Level) (subcommand : Given → Reading) : Reading :=
  match settle level.given level.waiting with
  | .ok g => subcommand g
  | .error _ =>
    match subcommand level.given with
    | .invocation _ => .usage
    | reading => reading

/-- What the words after `config` come to. -/
def readConfig (above : Given) (words : List String) : Reading :=
  match readLevel globalSpecs configNames words with
  | .error stop => stopped ["config"] stop
  | .ok level =>
    match level.next with
    | none => .usage
    | some (name, words) => afterLevel level fun g =>
      if name == "init" then
        readLeaf ["config", "init"] initSpecs [g, above]
          (fun g => some (.initConfiguration (g.has "force"))) words
      else if name == "show" then
        readLeaf ["config", "show"] [] [g, above] (fun _ => some .showConfiguration) words
      else readHelp ["config"] words

/-- Reads the words of a command line. -/
def read (environment : Option String) (words : List String) : Reading :=
  match readLevel globalSpecs commandNames words with
  | .error stop => stopped [] stop
  | .ok level =>
    match level.next with
    | none => .usage
    | some (name, words) => afterLevel level fun g =>
      if name == "record" then
        readLeaf ["record"] recordSpecs [g] (fun g => some (recordCommand environment g)) words
      else if name == "text" then readLeaf ["text"] textSpecs [g] textCommand? words
      else if name == "image" then readLeaf ["image"] imageSpecs [g] imageCommand? words
      else if name == "config" then readConfig g words
      else readHelp [] words

end TestPlanner.CommandLine
