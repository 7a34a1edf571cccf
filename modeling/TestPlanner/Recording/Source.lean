import TestPlanner.Configuration.Basic
import TestPlanner.Files.Workspace
import TestPlanner.Program.Basic
import TestPlanner.Recording.Log
import TestPlanner.Recording.Script
import TestPlanner.Recording.Session
import TestPlanner.Synthesis.Request

/-!
# Plans from recordings

The events of a session come from a saved log, or from a program that runs the recording script. The
program is asked first whether it can load the browser library; if it cannot, or cannot be started,
nothing is recorded. Such a program writes no files.
-/

set_option autoImplicit false

namespace TestPlanner.Recording

open Files (Workspace)

/-- What opens a session on a start address and delivers its events. -/
abbrev Browser := (start : String) → Except Failure (List SessionEvent)

/-- The browser that replays events. -/
def replay (events : List SessionEvent) : Browser := fun _ => .ok events

/-- The browser that replays a saved log. -/
def replayLog (w : Workspace) (path : String) : Except Failure Browser :=
  match w.readText path with
  | .ok log => match eventsOfLog? log with
    | some events => .ok (replay events)
    | none => .error .badJson
  | .error fault => .error (.file fault)

/-- The call that asks whether the browser library can be loaded. -/
def libraryCall (settings : RecordingSettings) : ProgramCall :=
  ⟨settings.nodeBinary,
    ["-e", "require.resolve('playwright', \x7b paths: [process.cwd()] \x7d)"],
    settings.driverDirectory⟩

/-- Where the recording script is kept while it runs. -/
def scriptPath : String := "/tmp/recording/record.js"

/-- The events that a program reports when it runs the recording script. -/
def eventsOfProgram (run : Runner) (w : Workspace) (settings : RecordingSettings) : Browser :=
  fun _ =>
    match run w ⟨settings.nodeBinary, [scriptPath], settings.driverDirectory⟩ with
    | .ok (r, _) => .ok (eventsOfOutput ⟨r.output.toArray⟩)
    | .error fault => .error (.sourceFault .recording fault)

/-- The browser that a program drives, if it can. -/
def openBrowser (run : Runner) (w : Workspace) (settings : RecordingSettings) :
    Except Failure Browser :=
  match run w (libraryCall settings) with
  | .ok (r, _) =>
    if r.status == .success then .ok (eventsOfProgram run w settings)
    else .error .browserDriverMissing
  | .error _ => .error .browserDriverMissing

/-- The start address of a request: its input, or the default one if the input is blank. -/
def startOf (default : Option String) (input : String) : Except Failure String :=
  let start := Text.trimmed input
  if start.isEmpty then
    match default with
    | some start => .ok start
    | none => .error (.invalid .noStartAddress)
  else .ok start

/-- The plan for a session that a browser records. -/
def plan (browser : Browser) (default : Option String) (r : Request) : Except Failure Plan := do
  let start ← startOf default r.input
  let events ← browser start
  record start r.feature events

end TestPlanner.Recording
