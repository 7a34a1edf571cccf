import Std.Time.DateTime.Timestamp
import TestPlanner.CommandLine.Help
import TestPlanner.CommandLine.Run
import TestPlanner.Files.Change
import TestPlanner.Shell.Run
import TestPlanner.Text.Timestamp

/-!
# The program

The command line on a real file system. What a command may look at is copied into a workspace, the
command is run there, and what it changed is then carried out. Field detectors and recordings run
the programs of the small shell.
-/

set_option autoImplicit false

namespace TestPlanner.CommandLine

open Files (Entry Place Tree Workspace)

/-- The absolute path of a place. -/
def pathOf (p : Place) : String := "/" ++ "/".intercalate p

/-- Copies what is at a place, if there is anything, with the directories above it. -/
def copyPlace (w : Workspace) (p : Place) : IO Workspace := do
  try
    let real ← IO.FS.realPath (pathOf p)
    if ← real.isDir then
      return w.withTree (w.tree.putDirectories p)
    else
      let content ← IO.FS.readBinFile real
      return w.withTree ((w.tree.putDirectories p.dropLast).put p (.file content))
  catch _ => return w

/-- Copies what a path names, and the directories on the way to it. -/
def copyPath (w : Workspace) (path : String) : IO Workspace := do
  let p := w.placeOf path
  let mut w := w
  for n in List.range (p.length + 1) do
    w ← copyPlace w (p.take n)
  return w

/-- Copies what is below a directory, without the contents of files. -/
def copyBelow (w : Workspace) (path : String) : IO Workspace := do
  let mut w ← copyPath w path
  let p := w.placeOf path
  try
    let real ← IO.FS.realPath (pathOf p)
    for below in ← real.walkDir do
      let names := (Files.components below.toString).drop (Files.components real.toString).length
      let q := p ++ names
      if (w.tree.get? q).isNone then
        let entry : Entry := if ← below.isDir then .directory else .file .empty
        w := w.withTree (w.tree.put q entry)
    return w
  catch _ => return w

/-- The paths that a command may look at. -/
def pathsOf (c : Configuration) : Command → List String
  | .record o => o.replay.toList
  | .text (.file path) _ _ => [path]
  | .text (.literal text) _ _ => [text]
  | .image path _ detector =>
    path :: Screenshot.fieldFile path :: (detector ++ c.image.detectorCommand)
  | _ => []

/-- The workspace for an invocation. -/
def workspaceFor (i : Invocation) : IO Workspace := do
  let here := Files.components (← IO.currentDir).toString
  let start : Workspace := ⟨.empty, here.filter fun name => !name.isEmpty⟩
  let w ← copyPath start "."
  let w ← copyPath w i.configuration
  let c := ((loadConfiguration w i.configuration).toOption).getD .default
  let mut w := w
  for path in pathsOf c i.command do
    if !path.isEmpty then
      w ← copyPath w path
  copyBelow w (i.outputRoot.getD c.outputRoot)

/-- Carries out a change. -/
def carryOut : Files.Change → IO Unit
  | .remove p => do
    let removed ← (IO.FS.realPath (pathOf p)).toBaseIO
    match removed with
    | .ok real => if ← real.isDir then IO.FS.removeDirAll real else IO.FS.removeFile real
    | .error _ => return ()
  | .makeDirectory p => IO.FS.createDirAll (pathOf p)
  | .write p content => IO.FS.writeBinFile (pathOf p) content

/-- The time of day, in words. -/
def now : IO String := do
  let nanos := (← Std.Time.Timestamp.now).toNanosecondsSinceUnixEpoch.toInt.toNat
  return Text.Timestamp.format (nanos / 1000000000) (nanos % 1000000000)

/-- Runs an invocation on the real file system. -/
def runReal (i : Invocation) : IO UInt32 := do
  let w ← workspaceFor i
  let o := run ⟨Shell.run, ← now⟩ w i
  for change in w.tree.changes o.workspace.tree do
    carryOut change
  IO.print o.output
  match o.failure with
  | none => return 0
  | some f =>
    IO.eprintln ("Error: " ++ f.message)
    return 1

end TestPlanner.CommandLine

open TestPlanner.CommandLine in
/-- Reads the command line and runs what it asks for. -/
def main (arguments : List String) : IO UInt32 := do
  match read (← IO.getEnv "APP_URL") arguments with
  | .invocation i => runReal i
  | .version name =>
    IO.println (name ++ " " ++ programVersion)
    return 0
  | .help detailed path =>
    IO.print (help (← IO.getEnv "APP_URL") detailed path)
    return 0
  | .usage =>
    IO.eprintln ("error: the arguments are not understood\n\nFor more information, try '--help'.")
    return 2
