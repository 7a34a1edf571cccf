import TestPlanner.CommandLine.Invocation
import TestPlanner.Text.TerminalCode

/-!
# Help

The help text of a command: what it does, how it is called, its subcommands and its options. A
summary has each option on one line, unless the options of a command are so wide that the texts
would not fit beside them; in detail, each text stands below its option. Values from the environment
may have several lines.

The options that every command takes are sorted among its own: the first of each kind comes first,
then the second, and so on.
-/

set_option autoImplicit false

namespace TestPlanner.CommandLine

/-- What help says about an option. -/
structure OptionHelp where
  short : Option Char
  /-- the long name, with the name of its value -/
  long : String
  text : String
  /-- remarks on the environment and the default -/
  remarks : List String
  /-- the values to choose from -/
  choices : List String
  /-- the choices with their texts, if they have any -/
  described : List (String × String)

/-- What help says about a command. -/
structure CommandHelp where
  text : String
  usage : String
  subcommands : List (String × String)
  options : List OptionHelp
  /-- whether the options include those that every command takes -/
  isGlobal : Bool

/-- An option with nothing but a text. -/
def simpleOption (short : Option Char) (long text : String) : OptionHelp :=
  ⟨short, long, text, [], [], []⟩

namespace Help

/-! ## Contents -/

/-- The configuration file. -/
def configurationOption : OptionHelp :=
  ⟨none, "config <CONFIG>", "Configuration file", ["[default: autodesign.toml]"], [], []⟩

/-- The output root. -/
def outputOption : OptionHelp :=
  simpleOption (some 'o') "output <OUTPUT>" "Output root directory (overrides output_root)"

/-- The output format. -/
def formatOption : OptionHelp :=
  ⟨none, "format <FORMAT>", "Output format", ["[default: table]"], ["table", "json", "yaml"],
    [("table", "Human-readable table format"), ("json", "JSON format"), ("yaml", "YAML format")]⟩

/-- The dry run. -/
def dryOption : OptionHelp :=
  simpleOption none "dry-run" "Build the plan and render it without writing files"

/-- More output. -/
def verboseOption : OptionHelp := simpleOption (some 'v') "verbose" "Enable verbose output"

/-- The feature name. -/
def nameOption (text : String) : OptionHelp := simpleOption (some 'n') "name <NAME>" text

/-- What the list of subcommands says about `help`. -/
def helpText : String := "Print this message or the help of the given subcommand(s)"

/-- The help of the program itself. -/
def program : CommandHelp where
  text := "CLI for AutoDesign test synthesis"
  usage := "autodesign [OPTIONS] <COMMAND>"
  subcommands :=
    [("record", "Record user actions in a live browser"),
      ("text", "Analyze a text description or user story"),
      ("image", "Generate from a screenshot's detected fields"),
      ("config", "Manage the configuration file"), ("help", helpText)]
  options := [configurationOption, outputOption, formatOption, dryOption, verboseOption]
  isGlobal := true

/-- The help of recordings; the start address may come from the environment. -/
def record (environment : Option String) : CommandHelp where
  text := "Record user actions in a live browser"
  usage := "autodesign record [OPTIONS]"
  subcommands := []
  options :=
    [configurationOption,
      ⟨some 'u', "url <URL>", "Page to open (defaults to recording.start_url)",
        ["[env: APP_URL=" ++ environment.getD "" ++ "]"], [], []⟩,
      nameOption "Feature name (defaults to the page title)", outputOption, formatOption,
      simpleOption none "replay <REPLAY>"
        "Replay a captured session log (JSON lines) instead of opening a browser",
      ⟨none, "browser <BROWSER>", "Browser engine", [], ["chromium", "firefox", "webkit"], []⟩,
      dryOption, verboseOption]
  isGlobal := true

/-- The help of texts. -/
def text : CommandHelp where
  text := "Analyze a text description or user story"
  usage := "autodesign text [OPTIONS] --name <NAME> <--file <FILE>|--text <TEXT>>"
  subcommands := []
  options :=
    [configurationOption, simpleOption (some 'f') "file <FILE>" "Text file holding the description",
      outputOption, simpleOption (some 't') "text <TEXT>" "Description given inline", formatOption,
      nameOption "Feature name", dryOption,
      simpleOption none "nlp" "Enable the NLP tier of user-story extraction", verboseOption]
  isGlobal := true

/-- The help of images. -/
def image : CommandHelp where
  text := "Generate from a screenshot's detected fields"
  usage := "autodesign image [OPTIONS] --path <PATH> --name <NAME>"
  subcommands := []
  options :=
    [configurationOption, simpleOption (some 'p') "path <PATH>" "Screenshot to analyze",
      nameOption "Feature name", outputOption,
      simpleOption none "detector-cmd <DETECTOR_CMD>..."
        "Field detector command; the image path is appended to it",
      formatOption, dryOption, verboseOption]
  isGlobal := true

/-- The help of configurations. -/
def configuration : CommandHelp where
  text := "Manage the configuration file"
  usage := "autodesign config [OPTIONS] <COMMAND>"
  subcommands :=
    [("init", "Write a default configuration file"), ("show", "Show the effective configuration"),
      ("help", helpText)]
  options := [configurationOption, outputOption, formatOption, dryOption, verboseOption]
  isGlobal := true

/-- The help of writing a configuration file. -/
def initialise : CommandHelp where
  text := "Write a default configuration file"
  usage := "autodesign config init [OPTIONS]"
  subcommands := []
  options :=
    [configurationOption, simpleOption none "force" "Overwrite an existing file", outputOption,
      formatOption, dryOption, verboseOption]
  isGlobal := true

/-- The help of printing a configuration. -/
def showing : CommandHelp where
  text := "Show the effective configuration"
  usage := "autodesign config show [OPTIONS]"
  subcommands := []
  options := [configurationOption, outputOption, formatOption, dryOption, verboseOption]
  isGlobal := true

/-- The help of help on the commands below a path. -/
def onHelp (path : String) : CommandHelp where
  text := helpText
  usage := path ++ " help [COMMAND]"
  subcommands := []
  options := []
  isGlobal := false

/-- The help of the command that names lead to. -/
def ofPath (environment : Option String) : List String → CommandHelp
  | ["record"] => record environment
  | ["text"] => text
  | ["image"] => image
  | ["config"] => configuration
  | ["config", "init"] => initialise
  | ["config", "show"] => showing
  | ["help"] => onHelp "autodesign"
  | ["config", "help"] => onHelp "autodesign config"
  | _ => program

/-! ## Layout -/

/-- Spaces. -/
def spaces (n : Nat) : String := String.ofList (List.replicate n ' ')

/-- A text in bold. -/
def bold (text : String) : String := "\x1b[1m" ++ text ++ "\x1b[0m"

/-- The names of an option, in bold, and the name of its value. -/
def names (o : OptionHelp) : String :=
  let name := o.long.toList.takeWhile (· != ' ')
  "  " ++ (match o.short with
    | some c => bold ("-" ++ c.toString) ++ ", "
    | none => "    ") ++ bold ("--" ++ String.ofList name) ++
    String.ofList (o.long.toList.drop name.length)

/-- The remarks on an option, the values to choose from included. -/
def remarks (o : OptionHelp) : List String :=
  o.remarks ++
    if o.choices.isEmpty then []
    else ["[possible values: " ++ ", ".intercalate o.choices ++ "]"]

/-- The text of an option and its remarks on one line. -/
def summaryText (o : OptionHelp) : String := " ".intercalate (o.text :: remarks o)

/-- How wide help may be. -/
def lineWidth : Nat := 100

/-- Whether the texts of options have to stand below them, given the width of the longest. -/
def needsLines (longest : Nat) (os : List OptionHelp) : Bool :=
  let taken := longest + 12
  taken * 5 > lineWidth * 2 && os.any fun o =>
    o.text.length + (" ".intercalate (remarks o)).length > lineWidth - taken

/-- Where the texts below options start. -/
def textIndent : String := "\n" ++ spaces 10

/-- A text whose further lines start where another text says. -/
def continued (start text : String) : String := text.replace "\n" start

/-- The lines of an option in detail. -/
def detailed (o : OptionHelp) : String :=
  let remarks := if o.described.isEmpty then remarks o else o.remarks
  let longest := (o.described.map fun d => d.1.length).foldl max 0
  let values := o.described.map fun d =>
    textIndent ++ "- " ++ d.1 ++ ": " ++ spaces (longest - d.1.length) ++ d.2
  names o ++ textIndent ++ o.text ++
    (if values.isEmpty then ""
      else "\n" ++ textIndent ++ "Possible values:" ++ String.join values) ++
    if remarks.isEmpty then "" else
      textIndent ++ textIndent ++ textIndent.intercalate (remarks.map (continued textIndent))

/-- The lines of options. -/
def optionLines (isDetailed : Bool) (os : List OptionHelp) : String :=
  let longest := (os.map fun o => o.long.length + 2).foldl max 0
  if isDetailed then "\n\n".intercalate (os.map detailed)
  else if needsLines longest os then
    "\n".intercalate (os.map fun o =>
      names o ++ textIndent ++ continued textIndent (summaryText o))
  else
    "\n".intercalate (os.map fun o =>
      names o ++ spaces (longest - o.long.length) ++
        continued ("\n" ++ spaces (longest + 8)) (summaryText o))

/-- The lines of subcommands. -/
def subcommandLines (cs : List (String × String)) : String :=
  let longest := (cs.map fun c => c.1.length).foldl max 0
  "\n".intercalate (cs.map fun c => "  " ++ c.1 ++ spaces (longest - c.1.length + 2) ++ c.2)

/-- What help says about itself and the version. -/
def closing (isDetailed : Bool) : List OptionHelp :=
  [simpleOption (some 'h') "help"
      (if isDetailed then "Print help (see a summary with '-h')"
        else "Print help (see more with '--help')"),
    simpleOption (some 'V') "version" "Print version"]

end Help

/-- The help text of the command that names lead to. It is written for a terminal and then freed of
the codes for one, those in the environment included. -/
def help (environment : Option String) (isDetailed : Bool) (path : List String) : String :=
  let c := Help.ofPath environment path
  Text.withoutCodes <| c.text ++ "\n\nUsage: " ++ c.usage ++ "\n" ++
    (if c.subcommands.isEmpty then ""
      else "\nCommands:\n" ++ Help.subcommandLines c.subcommands ++ "\n") ++
    if c.isGlobal then
      "\nOptions:\n" ++ Help.optionLines isDetailed (c.options ++ Help.closing isDetailed) ++ "\n"
    else "\nArguments:\n  [COMMAND]...  Print help for the subcommand(s)\n"

end TestPlanner.CommandLine
