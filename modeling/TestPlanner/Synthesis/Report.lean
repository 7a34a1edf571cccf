import TestPlanner.Artifact.Output
import TestPlanner.Plan.Json

/-!
# Synthesis

A run takes what a source of plans answered and turns it into artifacts. A source may have no plan;
a plan whose feature name has no letter or digit counts as none; any other plan is checked before
anything is written. A dry run writes nothing.

What a run comes to is a report: the plan, the names its artifacts share, and the files.
-/

set_option autoImplicit false

namespace TestPlanner

open Files (Workspace)

/-- What a run comes to; `files` is missing after a dry run. -/
structure Report where
  plan : Plan
  names : ArtifactNames
  files : Option WrittenFiles
  deriving DecidableEq, Repr

namespace Synthesis

/-- The plan to render, if a source's answer has one. -/
def accepted (answer : Except Failure (Option Plan)) : Except Failure (Option Plan) :=
  match answer with
  | .error failure => .error failure
  | .ok none => .ok none
  | .ok (some p) =>
    if p.safeName.isEmpty then .ok none
    else match p.check with
      | .ok () => .ok (some p)
      | .error failure => .error failure

/-- Renders a plan and, unless the run is dry, writes it below an output root. -/
def emit (root : String) (dry : Bool) (w : Workspace) (p : Plan) :
    Except Failure Report × Workspace :=
  let a := p.render
  if dry then (.ok ⟨p, a.names, none⟩, w)
  else
    match a.write root w with
    | (.ok files, w) => (.ok ⟨p, a.names, some files⟩, w)
    | (.error failure, w) => (.error failure, w)

/-- A whole run on a source's answer. -/
def run (root : String) (dry : Bool) (w : Workspace) (answer : Except Failure (Option Plan)) :
    Except Failure (Option Report) × Workspace :=
  match accepted answer with
  | .error failure => (.error failure, w)
  | .ok none => (.ok none, w)
  | .ok (some p) =>
    match emit root dry w p with
    | (.ok report, w) => (.ok (some report), w)
    | (.error failure, w) => (.error failure, w)

end Synthesis

open Json

/-- The JSON form of shared names. -/
def ArtifactNames.toJson (n : ArtifactNames) : Json :=
  .object [("safe", .string n.safe), ("pageClass", .string n.pageClass),
    ("pageInstance", .string n.pageInstance)]

/-- The JSON form of written files. -/
def WrittenFiles.toJson (f : WrittenFiles) : Json :=
  .object [("dir", .string f.directory), ("files", .array (f.files.map Json.string))]

/-- The JSON form of a report. -/
def Report.toJson (r : Report) : Json :=
  .object [("plan", r.plan.toJson), ("names", r.names.toJson),
    ("files", orNull WrittenFiles.toJson r.files)]

end TestPlanner
