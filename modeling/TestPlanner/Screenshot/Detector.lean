import TestPlanner.Failure
import TestPlanner.Files.Workspace
import TestPlanner.Program.Basic
import TestPlanner.Screenshot.Field
import TestPlanner.Text.Blank

/-!
# Detectors

A detector tells which fields are on images. It never looks at the images itself: the fields are
those of files next to the images, or those that a program reports.

**Field files.** The file for an image has the image's name with another extension. An image without
one has no fields.

**Programs.** The images are passed as the last arguments. A program that fails is quoted with its
messages; otherwise its output is the report, and its messages are ignored.
-/

set_option autoImplicit false

namespace TestPlanner.Screenshot

open Files (Workspace)

/-- What finds the fields on images. The workspace is returned as the detector left it. -/
abbrev Detector :=
  Workspace → (images : List String) → Except Failure (List DetectedField) × Workspace

/-- The file that holds the fields of an image. -/
def fieldFile (image : String) : String := Files.withExtension image "fields.json"

/-- The fields in the text of a report. -/
def readReport (text : String) : Except Failure (List DetectedField) :=
  match DetectedField.report? text with
  | some fields => .ok fields
  | none => .error (.sourceFailure .image .badJson)

/-- The fields in the field file of an image. -/
def fieldsOfFile (w : Workspace) (image : String) : Except Failure (List DetectedField) :=
  let path := fieldFile image
  if w.has path then
    match w.readText path with
    | .ok text => readReport text
    | .error fault => .error (.file fault)
  else .ok []

/-- The detector that reads field files. -/
def fieldFiles : Detector := fun w images =>
  ((images.mapM (fieldsOfFile w)).map List.flatten, w)

/-- The fields that the call of a program comes to. -/
def fieldsOfResult (r : ProgramResult) : Except Failure (List DetectedField) :=
  if r.status == .success then readReport (Text.Utf8.lossy ⟨r.output.toArray⟩)
  else
    .error (.sourceMessage .image
      ("field detector exited with " ++ r.status.message ++ ": " ++
        Text.trimmed (Text.Utf8.lossy ⟨r.errors.toArray⟩)))

/-- The detector that asks a program. -/
def programDetector (run : Runner) (program : String) (arguments : List String) : Detector :=
  fun w images =>
    match run w ⟨program, arguments ++ images, none⟩ with
    | .ok (r, w) => (fieldsOfResult r, w)
    | .error fault => (.error (.sourceFault .image fault), w)

/-- The detector of a command line, if it has a program. -/
def commandDetector? (run : Runner) : List String → Option Detector
  | [] => none
  | program :: arguments => some (programDetector run program arguments)

end TestPlanner.Screenshot
