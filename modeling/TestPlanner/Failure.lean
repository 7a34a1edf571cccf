import TestPlanner.Files.Fault
import TestPlanner.Plan.Validity

/-!
# Failures

Everything that can stop a run, as causes; the wording of each is in one function. A failure of a
source of plans names the source and carries its cause, which may be another failure.
-/

set_option autoImplicit false

namespace TestPlanner

/-- The three sources of plans. -/
inductive SourceKind where
  | text
  | image
  | recording
  deriving DecidableEq, Repr, Inhabited

/-- The name of a source. -/
def SourceKind.name : SourceKind → String
  | .text => "text"
  | .image => "image"
  | .recording => "recording"

/-- Why an input is refused. -/
inductive Refusal where
  | plan (fault : PlanFault)
  | emptyText
  | blankText (input : String)
  | textFileNotFound (path : String)
  | imageNotFound (path : String)
  | undecodableImage (path : String)
  | noStartAddress
  deriving DecidableEq, Repr

/-- The refusal in words. -/
def Refusal.message : Refusal → String
  | .plan fault => fault.message
  | .emptyText => "text input cannot be empty"
  | .blankText input => "'" ++ input ++ "' contains no text"
  | .textFileNotFound path => "text file not found: " ++ path
  | .imageNotFound path => "image not found: " ++ path
  | .undecodableImage path => "cannot decode image " ++ path
  | .noStartAddress => "no start URL given for recording"

/-- What stops a run. -/
inductive Failure where
  /-- an input that is refused -/
  | invalid (why : Refusal)
  /-- a source that failed because of a file or a program -/
  | sourceFault (source : SourceKind) (fault : FileFault)
  /-- a source that failed with a message -/
  | sourceMessage (source : SourceKind) (message : String)
  /-- a source that failed because of another failure -/
  | sourceFailure (source : SourceKind) (cause : Failure)
  | browserDriverMissing
  | unwritable (path : String) (fault : FileFault)
  | badConfiguration
  | file (fault : FileFault)
  | badJson
  deriving Repr

namespace Failure

/-- The failure in words. -/
def message : Failure → String
  | .invalid why => "Validation error: " ++ why.message
  | .sourceFault s fault => s.name ++ " strategy failed: " ++ fault.message
  | .sourceMessage s text => s.name ++ " strategy failed: " ++ text
  | .sourceFailure s cause => s.name ++ " strategy failed: " ++ cause.message
  | .browserDriverMissing =>
    "Playwright not found. Install with: npm i -D playwright && npx playwright install chromium"
  | .unwritable path fault => "Failed to write " ++ path ++ ": " ++ fault.message
  | .badConfiguration => "Invalid configuration"
  | .file fault => "IO error: " ++ fault.message
  | .badJson => "JSON error"

end Failure

/-- The check of a plan as a refusal. -/
def Plan.check (p : Plan) : Except Failure Unit :=
  match p.fault? with
  | some fault => .error (.invalid (.plan fault))
  | none => .ok ()

end TestPlanner
