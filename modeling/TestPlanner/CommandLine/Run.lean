import TestPlanner.CommandLine.Invocation
import TestPlanner.Configuration.Json
import TestPlanner.Configuration.Toml
import TestPlanner.Json.Printer
import TestPlanner.Prose.Source
import TestPlanner.Recording.Source
import TestPlanner.Screenshot.Source
import TestPlanner.Synthesis.Report
import TestPlanner.Text.Boxed
import TestPlanner.Yaml.Printer

/-!
# Running invocations

An invocation is run in a workspace: the configuration is loaded, the command carried out, and what
is printed collected line by line. What it comes to is the text printed, the failure that stopped
it, if any, and the workspace afterwards.
-/

set_option autoImplicit false

namespace TestPlanner.CommandLine

open Files (Workspace)

/-- What stops a command. -/
inductive RunFailure where
  | failed (failure : Failure)
  | badConfiguration (path : String) (failure : Failure)
  | badLog (path : String) (failure : Failure)
  | configurationExists (path : String)
  deriving Repr

namespace RunFailure

/-- The failure in words. -/
def message : RunFailure → String
  | .failed f => f.message
  | .badConfiguration path _ => "Failed to load " ++ path
  | .badLog path _ => "Failed to load session log " ++ path
  | .configurationExists path => path ++ " already exists (use --force to overwrite)"

end RunFailure

/-- What a command comes to. -/
structure Outcome where
  output : String
  failure : Option RunFailure
  workspace : Workspace

namespace Outcome

/-- The command that printed a text and succeeded. -/
def done (w : Workspace) (output : String) : Outcome := ⟨output, none, w⟩

/-- The command that failed after it printed a text. -/
def stopped (w : Workspace) (output : String) (f : RunFailure) : Outcome := ⟨output, some f, w⟩

end Outcome

/-- The surroundings of a run besides its workspace. -/
structure Surroundings where
  /-- what carries out calls of programs -/
  run : Runner
  /-- the time of the run -/
  timestamp : String

/-! ## Configuration files -/

/-- The configuration in a file, or the default one if there is no file. -/
def loadConfiguration (w : Workspace) (path : String) : Except Failure Configuration :=
  if w.has path then
    match w.readText path with
    | .ok text => match Configuration.parse? text with
      | some c => .ok c
      | none => .error .badConfiguration
    | .error fault => .error (.file fault)
  else .ok .default

/-- Writes a configuration to a file and makes the directory for it. -/
def saveConfiguration (c : Configuration) (w : Workspace) (path : String) :
    Option Failure × Workspace :=
  match w.makeDirectories ((Files.parent? path).getD "") with
  | (some fault, w) => (some (.file fault), w)
  | (none, w) =>
    match w.write path c.document.toUTF8 with
    | .ok w => (none, w)
    | .error fault => (some (.file fault), w)

/-- Writes the default configuration, over an existing file only by force. -/
def initConfiguration (w : Workspace) (path : String) (force : Bool) : Outcome :=
  if w.has path && !force then .stopped w "" (.configurationExists path)
  else
    match saveConfiguration .default w path with
    | (some f, w) => .stopped w "" (.failed f)
    | (none, w) => .done w ("✅ Wrote " ++ path ++ "\n")

/-- A value as a document. -/
def document (format : Format) (v : Json) : String :=
  match format with
  | .yaml => Yaml.document v
  | _ => v.pretty ++ "\n"

/-- Prints a configuration. -/
def showConfiguration (w : Workspace) (format : Format) (c : Configuration) : Outcome :=
  .done w (if format == .table then c.document else document format c.toJson)

/-! ## Reports -/

/-- The table of a plan. -/
def planTable (r : Report) : String :=
  Text.Boxed.table ["Feature", "Scenario", "Page", "Locators", "Steps", "Tags"]
    [[r.plan.feature, r.plan.scenario, r.names.pageClass, toString r.plan.locators.length,
      toString r.plan.steps.length, ", ".intercalate r.plan.tags]]

/-- What an artifact is called in tables. -/
def artifactTitle : ArtifactKind → String
  | .pageObject => "page object"
  | k => k.name

/-- The table of written files. -/
def filesTable (f : WrittenFiles) : String :=
  Text.Boxed.table ["Artifact", "Path"]
    (List.zipWith (fun k path => [artifactTitle k, path]) ArtifactKind.all f.files)

/-- A report in a format. -/
def reportText (format : Format) (r : Report) : String :=
  if format == .table then
    planTable r ++ "\n" ++
      match r.files with
      | some f => filesTable f ++ "\n✅ Test files generated in " ++ f.directory ++ "\n"
      | none => "ℹ️  Dry run: no files were written\n"
  else document format r.toJson

/-- Synthesises artifacts from a source's answer and reports on them; `output` was printed
before. -/
def synthesize (i : Invocation) (c : Configuration) (w : Workspace) (output : String)
    (answer : Except Failure (Option Plan)) : Outcome :=
  match Synthesis.run c.outputRoot i.dry w answer with
  | (.error f, w) => .stopped w output (.failed f)
  | (.ok none, w) =>
    .done w (output ++ "⚠️  No test plan was produced; nothing was generated\n")
  | (.ok (some r), w) => .done w (output ++ reportText i.format r)

/-! ## Commands -/

/-- Plans from a recorded session. -/
def record (s : Surroundings) (i : Invocation) (c : Configuration) (w : Workspace)
    (o : RecordOptions) : Outcome :=
  let settings := { c.recording with browser := o.browser.getD c.recording.browser }
  let request : Request := ⟨o.url.getD "", o.name, none⟩
  let planned (browser : Recording.Browser) : Except Failure (Option Plan) :=
    (Recording.plan browser settings.startUrl request).map some
  match o.replay with
  | some path =>
    match Recording.replayLog w path with
    | .error f => .stopped w "" (.badLog path f)
    | .ok browser => synthesize i c w "" (planned browser)
  | none =>
    match Recording.openBrowser s.run w settings with
    | .error f => .stopped w "" (.failed f)
    | .ok browser =>
      synthesize i c w
        "ℹ️  Recording: interact with the page, then close the browser window to finish\n"
        (planned browser)

/-- Plans from a text. -/
def text (s : Surroundings) (i : Invocation) (c : Configuration) (w : Workspace)
    (input : TextInput) (name : String) (marking : Bool) : Outcome :=
  let planned (input : String) : Outcome :=
    let request : Request := ⟨input, some name, if marking then some true else none⟩
    synthesize i c w ""
      ((Prose.plan c.text (some Prose.lexiconMarker) s.timestamp w request).map some)
  match input with
  | .literal text => planned text
  | .file path =>
    if w.isFile path then planned path
    else .stopped w "" (.failed (.invalid (.textFileNotFound path)))

/-- Plans from an image. -/
def image (s : Surroundings) (i : Invocation) (c : Configuration) (w : Workspace)
    (path name : String) (detector : List String) : Outcome :=
  let settings : ImageSettings := if detector.isEmpty then c.image else ⟨detector⟩
  let (planned, w) :=
    Screenshot.plan (Screenshot.detectorOf s.run settings) w ⟨path, some name, none⟩
  synthesize i c w "" planned

/-- Runs an invocation. -/
def run (s : Surroundings) (w : Workspace) (i : Invocation) : Outcome :=
  match loadConfiguration w i.configuration with
  | .error f => .stopped w "" (.badConfiguration i.configuration f)
  | .ok c =>
    let c := { c with outputRoot := i.outputRoot.getD c.outputRoot }
    match i.command with
    | .record o => record s i c w o
    | .text input name marking => text s i c w input name marking
    | .image path name detector => image s i c w path name detector
    | .initConfiguration force => initConfiguration w i.configuration force
    | .showConfiguration => showConfiguration w i.format c

end TestPlanner.CommandLine
