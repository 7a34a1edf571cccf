/-!
# Configuration

The settings of a run: where artifacts are written, how sessions are recorded, how texts are
analysed, and which program detects fields on screenshots. Every setting has a default.
-/

set_option autoImplicit false

namespace TestPlanner

/-- A browser engine. -/
inductive Browser where
  | chromium
  | firefox
  | webkit
  deriving DecidableEq, Repr, Inhabited

/-- The name of a browser engine. -/
def Browser.name : Browser → String
  | .chromium => "chromium"
  | .firefox => "firefox"
  | .webkit => "webkit"

/-- The names of the browser engines. -/
def Browser.names : List (String × Browser) :=
  [.chromium, .firefox, .webkit].map fun b => (b.name, b)

/-- How sessions are recorded. -/
structure RecordingSettings where
  startUrl : Option String
  browser : Browser
  nodeBinary : String
  driverDirectory : Option String
  viewportWidth : UInt32
  viewportHeight : UInt32
  deriving DecidableEq, Repr

/-- How texts are analysed. -/
structure TextSettings where
  /-- whether word classes are marked unless a request says otherwise -/
  useMarking : Bool
  allowedExtensions : List String
  deriving DecidableEq, Repr

/-- How fields are detected on screenshots. -/
structure ImageSettings where
  /-- the detector program and its arguments; empty for field files next to the images -/
  detectorCommand : List String
  deriving DecidableEq, Repr

/-- The settings of a run. -/
structure Configuration where
  outputRoot : String
  recording : RecordingSettings
  text : TextSettings
  image : ImageSettings
  deriving DecidableEq, Repr

/-- The default way to record. -/
def RecordingSettings.default : RecordingSettings := ⟨none, .chromium, "node", none, 1280, 720⟩

/-- The default way to analyse texts. -/
def TextSettings.default : TextSettings := ⟨false, ["txt", "md", "json", "yml", "yaml"]⟩

/-- The default way to detect fields. -/
def ImageSettings.default : ImageSettings := ⟨[]⟩

/-- The default settings. -/
def Configuration.default : Configuration := ⟨"output", .default, .default, .default⟩

end TestPlanner
