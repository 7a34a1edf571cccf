import TestPlanner.Configuration.Basic
import TestPlanner.Json.Record

/-!
# Configurations in JSON

Absent options are written as null; a setting that is left out has its default.
-/

set_option autoImplicit false

namespace TestPlanner

open Json

/-- The JSON form of the recording settings. -/
def RecordingSettings.toJson (r : RecordingSettings) : Json :=
  .object [("start_url", orNull Json.string r.startUrl), ("browser", .string r.browser.name),
    ("node_binary", .string r.nodeBinary), ("driver_dir", orNull Json.string r.driverDirectory),
    ("viewport_width", .nat r.viewportWidth.toNat),
    ("viewport_height", .nat r.viewportHeight.toNat)]

/-- The JSON form of the text settings. -/
def TextSettings.toJson (t : TextSettings) : Json :=
  .object [("use_nlp", .bool t.useMarking),
    ("allowed_extensions", .array (t.allowedExtensions.map Json.string))]

/-- The JSON form of the image settings. -/
def ImageSettings.toJson (i : ImageSettings) : Json :=
  .object [("detector_command", .array (i.detectorCommand.map Json.string))]

/-- The JSON form of a configuration. -/
def Configuration.toJson (c : Configuration) : Json :=
  .object [("output_root", .string c.outputRoot), ("recording", c.recording.toJson),
    ("text", c.text.toJson), ("image", c.image.toJson)]

/-- Reads a 32-bit number. -/
def word? (v : Json) : Option UInt32 := (natBelow? (Nat.pow 2 32) v).map UInt32.ofNat

/-- Reads recording settings. -/
def RecordingSettings.ofJson? (v : Json) : Option RecordingSettings :=
  let d := RecordingSettings.default
  match fields? ["start_url", "browser", "node_binary", "driver_dir", "viewport_width",
      "viewport_height"] v with
  | some [url, browser, node, directory, width, height] => do
    pure {
      startUrl := ← optional string? url
      browser := ← defaulted d.browser (choice? isNull Browser.names) browser
      nodeBinary := ← defaulted d.nodeBinary string? node
      driverDirectory := ← optional string? directory
      viewportWidth := ← defaulted d.viewportWidth word? width
      viewportHeight := ← defaulted d.viewportHeight word? height }
  | _ => none

/-- Reads text settings. -/
def TextSettings.ofJson? (v : Json) : Option TextSettings :=
  let d := TextSettings.default
  match fields? ["use_nlp", "allowed_extensions"] v with
  | some [marking, extensions] => do
    pure {
      useMarking := ← defaulted d.useMarking bool? marking
      allowedExtensions := ← defaulted d.allowedExtensions (list? string?) extensions }
  | _ => none

/-- Reads image settings. -/
def ImageSettings.ofJson? (v : Json) : Option ImageSettings :=
  match fields? ["detector_command"] v with
  | some [command] => do
    pure { detectorCommand := ← defaulted [] (list? string?) command }
  | _ => none

/-- Reads a configuration. -/
def Configuration.ofJson? (v : Json) : Option Configuration :=
  let d := Configuration.default
  match fields? ["output_root", "recording", "text", "image"] v with
  | some [root, recording, text, image] => do
    pure {
      outputRoot := ← defaulted d.outputRoot string? root
      recording := ← defaulted d.recording RecordingSettings.ofJson? recording
      text := ← defaulted d.text TextSettings.ofJson? text
      image := ← defaulted d.image ImageSettings.ofJson? image }
  | _ => none

end TestPlanner
