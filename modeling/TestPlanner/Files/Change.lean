import TestPlanner.Files.Tree

/-!
# Changes between trees

What has to be done to one file tree to make it another one: what is gone is removed first, then
directories are made, then files are written.
-/

set_option autoImplicit false

namespace TestPlanner.Files

/-- One change to a tree. -/
inductive Change where
  | remove (p : Place)
  | makeDirectory (p : Place)
  | write (p : Place) (content : ByteArray)

/-- The changes from one tree to another. -/
def Tree.changes (before after : Tree) : List Change :=
  let removed := before.entries.filterMap fun e =>
    if (after.get? e.1).isSome then none else some (.remove e.1)
  let directories := after.entries.filterMap fun e =>
    match e.2 with
    | .directory => if before.get? e.1 == some e.2 then none else some (.makeDirectory e.1)
    | .file _ => none
  let files := after.entries.filterMap fun e =>
    match e.2 with
    | .file content => if before.get? e.1 == some e.2 then none else some (.write e.1 content)
    | .directory => none
  removed ++ directories ++ files

end TestPlanner.Files
