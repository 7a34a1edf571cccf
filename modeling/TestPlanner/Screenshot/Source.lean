import TestPlanner.Configuration.Basic
import TestPlanner.Screenshot.Detector
import TestPlanner.Screenshot.FieldPlan
import TestPlanner.Screenshot.Jpeg
import TestPlanner.Screenshot.Png
import TestPlanner.Synthesis.Request

/-!
# Plans from screenshots

An image is checked before its fields are detected: it has to be a file, with the header of the
format that its extension names. Unless the caller names the feature, the image's name does.
-/

set_option autoImplicit false

namespace TestPlanner.Screenshot

open Files (Workspace)

/-- Whether the header of an image can be read. -/
def isReadableImage (path : String) (content : ByteArray) : Bool :=
  let extension := ((Files.extension? path).getD "").toList.map Text.asciiLower
  if extension == "png".toList then Png.isReadable content.toList
  else if extension == "jpg".toList || extension == "jpeg".toList then
    Jpeg.isReadable content.toList
  else false

/-- Refuses what is no readable image. -/
def checkImage (w : Workspace) (path : String) : Except Failure Unit :=
  match w.read path with
  | .ok content =>
    if isReadableImage path content then .ok ()
    else .error (.invalid (.undecodableImage path))
  | .error _ => .error (.invalid (.imageNotFound path))

/-- The plan for the image of a request, if any of its fields leads to a step. -/
def plan (detect : Detector) (w : Workspace) (r : Request) :
    Except Failure (Option Plan) × Workspace :=
  match checkImage w r.input with
  | .error failure => (.error failure, w)
  | .ok () =>
    let feature := r.feature.getD ((Files.fileStem? r.input).getD "")
    let (fields, w) := detect w [r.input]
    (fields.map (plan? feature ((Files.fileName? r.input).getD "")), w)

/-- The detector that settings ask for. -/
def detectorOf (run : Runner) (settings : ImageSettings) : Detector :=
  (commandDetector? run settings.detectorCommand).getD fieldFiles

end TestPlanner.Screenshot
