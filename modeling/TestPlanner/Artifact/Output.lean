import TestPlanner.Artifact.Rendered
import TestPlanner.Failure
import TestPlanner.Files.Workspace

/-!
# Writing artifacts

The artifacts of a plan are written below an output root, in a directory of the plan's safe name.
Whatever was in that directory before is removed first, so that it holds the four artifacts and
nothing else.
-/

set_option autoImplicit false

namespace TestPlanner

open Files (Workspace)

/-- The files that were written for a plan. -/
structure WrittenFiles where
  directory : String
  files : List String
  deriving DecidableEq, Repr

namespace Artifacts

/-- The directory of artifacts below an output root. -/
def directory (a : Artifacts) (root : String) : String := Files.join root a.names.safe

/-- The path of one artifact below a directory. -/
def path (a : Artifacts) (directory : String) (k : ArtifactKind) : String :=
  Files.join directory (k.relativePath a.names.safe)

/-- Removes the directory of artifacts, if there is one. -/
def clear (w : Workspace) (directory : String) : Except Failure Workspace :=
  if w.has directory then
    match w.removeDirectory directory with
    | .ok w => .ok w
    | .error fault => .error (.unwritable directory fault)
  else .ok w

/-- Writes one artifact and makes the directory for it. -/
def writeOne (a : Artifacts) (directory : String) (w : Workspace) (k : ArtifactKind) :
    Option Failure × Workspace :=
  let path := a.path directory k
  let parent := (Files.parent? path).getD ""
  match w.makeDirectories parent with
  | (some fault, w) => (some (.unwritable parent fault), w)
  | (none, w) =>
    match w.write path (a.get k).toUTF8 with
    | .ok w => (none, w)
    | .error fault => (some (.unwritable path fault), w)

/-- Writes artifacts of several kinds, up to the first that fails. -/
def writeEach (a : Artifacts) (directory : String) (w : Workspace) :
    List ArtifactKind → Option Failure × Workspace
  | [] => (none, w)
  | k :: ks =>
    match a.writeOne directory w k with
    | (none, w) => a.writeEach directory w ks
    | failed => failed

/-- Writes all artifacts below an output root. -/
def write (a : Artifacts) (root : String) (w : Workspace) :
    Except Failure WrittenFiles × Workspace :=
  let directory := a.directory root
  match clear w directory with
  | .error failure => (.error failure, w)
  | .ok w =>
    match a.writeEach directory w ArtifactKind.all with
    | (none, w) => (.ok ⟨directory, ArtifactKind.all.map (a.path directory)⟩, w)
    | (some failure, w) => (.error failure, w)

end Artifacts

end TestPlanner
