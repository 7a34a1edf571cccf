import TestPlanner.Configuration.Basic
import TestPlanner.Toml.Parser
import TestPlanner.Toml.Printer

/-!
# Configurations in TOML

How a configuration file is read and written. In a file, every setting may be left out, and unknown
settings are passed over. A section is a table, or an array of the first so many of its settings in
order; a date in its place counts as a table of unknown settings. Options that are absent are not
written.
-/

set_option autoImplicit false

namespace TestPlanner

open Toml

namespace Toml

universe u

variable {α : Type u}

/-- The values of a section's settings, in the order of their names. -/
def settings? (names : List String) : Toml → Option (List (Option Toml))
  | .table entries => some (names.map fun name => entries.lookup name)
  | .array items => some (names.mapIdx fun i _ => items[i]?)
  | .date _ => some (names.map fun _ => none)
  | _ => none

/-- A setting with a default. -/
def settingOr (default : α) (read : Toml → Option α) : Option Toml → Option α
  | some v => read v
  | none => some default

/-- A setting that may be absent. -/
def optionalSetting (read : Toml → Option α) : Option Toml → Option (Option α)
  | some v => (read v).map some
  | none => some none

/-- A string. -/
def asString? : Toml → Option String
  | .string s => some s
  | _ => none

/-- A truth value. -/
def asBool? : Toml → Option Bool
  | .boolean b => some b
  | _ => none

/-- A 32-bit number. -/
def asWord? : Toml → Option UInt32
  | .integer n => if 0 ≤ n && n < 4294967296 then some (UInt32.ofNat n.toNat) else none
  | _ => none

/-- A list of strings. -/
def asStrings? : Toml → Option (List String)
  | .array items => items.mapM asString?
  | _ => none

/-- Whether a value is an array or a table with nothing in it. -/
def isVoid : Toml → Bool
  | .array [] => true
  | .table [] => true
  | _ => false

/-- One of several named choices: its name, or a table whose only key is the name, with nothing
under it. -/
def asChoice? (choices : List (String × α)) : Toml → Option α
  | .string s => choices.lookup s
  | .table [(key, v)] => if isVoid v then choices.lookup key else none
  | _ => none

end Toml

/-- Reads recording settings. -/
def RecordingSettings.ofToml? (v : Toml) : Option RecordingSettings :=
  let d := RecordingSettings.default
  match settings? ["start_url", "browser", "node_binary", "driver_dir", "viewport_width",
      "viewport_height"] v with
  | some [url, browser, node, directory, width, height] => do
    pure {
      startUrl := ← optionalSetting asString? url
      browser := ← settingOr d.browser (asChoice? Browser.names) browser
      nodeBinary := ← settingOr d.nodeBinary asString? node
      driverDirectory := ← optionalSetting asString? directory
      viewportWidth := ← settingOr d.viewportWidth asWord? width
      viewportHeight := ← settingOr d.viewportHeight asWord? height }
  | _ => none

/-- Reads text settings. -/
def TextSettings.ofToml? (v : Toml) : Option TextSettings :=
  let d := TextSettings.default
  match settings? ["use_nlp", "allowed_extensions"] v with
  | some [marking, extensions] => do
    pure {
      useMarking := ← settingOr d.useMarking asBool? marking
      allowedExtensions := ← settingOr d.allowedExtensions asStrings? extensions }
  | _ => none

/-- Reads image settings. -/
def ImageSettings.ofToml? (v : Toml) : Option ImageSettings :=
  match settings? ["detector_command"] v with
  | some [command] => do
    pure { detectorCommand := ← settingOr ImageSettings.default.detectorCommand asStrings? command }
  | _ => none

/-- Reads a configuration. -/
def Configuration.ofToml? (v : Toml) : Option Configuration :=
  let d := Configuration.default
  match settings? ["output_root", "recording", "text", "image"] v with
  | some [root, recording, text, image] => do
    pure {
      outputRoot := ← settingOr d.outputRoot asString? root
      recording := ← settingOr d.recording RecordingSettings.ofToml? recording
      text := ← settingOr d.text TextSettings.ofToml? text
      image := ← settingOr d.image ImageSettings.ofToml? image }
  | _ => none

/-- Reads the text of a configuration file. -/
def Configuration.parse? (text : String) : Option Configuration :=
  (Toml.parse? text).bind fun entries => ofToml? (.table entries)

/-- An entry of an optional setting. -/
def entryIfSome (key : String) : Option String → List (String × Toml)
  | some s => [(key, .string s)]
  | none => []

/-- The entries of the recording settings. -/
def RecordingSettings.entries (r : RecordingSettings) : List (String × Toml) :=
  entryIfSome "start_url" r.startUrl
    ++ [("browser", .string r.browser.name), ("node_binary", .string r.nodeBinary)]
    ++ entryIfSome "driver_dir" r.driverDirectory
    ++ [("viewport_width", .integer r.viewportWidth.toNat),
      ("viewport_height", .integer r.viewportHeight.toNat)]

/-- The entries of the text settings. -/
def TextSettings.entries (t : TextSettings) : List (String × Toml) :=
  [("use_nlp", .boolean t.useMarking),
    ("allowed_extensions", .array (t.allowedExtensions.map Toml.string))]

/-- The entries of the image settings. -/
def ImageSettings.entries (i : ImageSettings) : List (String × Toml) :=
  [("detector_command", .array (i.detectorCommand.map Toml.string))]

/-- The entries of a configuration. -/
def Configuration.entries (c : Configuration) : List (String × Toml) :=
  [("output_root", .string c.outputRoot), ("recording", .table c.recording.entries),
    ("text", .table c.text.entries), ("image", .table c.image.entries)]

/-- The text of a configuration file. -/
def Configuration.document (c : Configuration) : String := Toml.document c.entries

end TestPlanner
