import TestPlanner.Files.Fault
import TestPlanner.Files.Path
import TestPlanner.Files.Tree
import TestPlanner.Text.Utf8

/-!
# Workspaces

A workspace is a file tree together with the directory that relative paths start from. A path is
followed through the tree name by name: every place that it passes has to be a directory, a double
dot leads to the directory above, and empty names and single dots lead nowhere.

Reading and writing speak of paths. Each operation that changes the tree returns the tree as it is
afterwards, also when it fails half-way.
-/

set_option autoImplicit false

namespace TestPlanner.Files

/-- A file tree and the directory that relative paths start from. -/
structure Workspace where
  tree : Tree
  directory : Place
  deriving Inhabited

/-- How many bytes a name may have. -/
def nameLimit : Nat := 255

/-- How many bytes a path may have. -/
def pathLimit : Nat := 4095

/-- The place that names lead to from a place. -/
def follow (t : Tree) (p : Place) : List String → Except FileFault Place
  | [] => .ok p
  | name :: names =>
    match t.get? p with
    | none => .error .notFound
    | some (.file _) => .error .notDirectory
    | some .directory =>
      if name == "" || name == "." then follow t p names
      else if name == ".." then follow t p.dropLast names
      else if name.utf8ByteSize > nameLimit then .error .nameTooLong
      else follow t (p ++ [name]) names

/-- The place that names lead to from a place, whatever there is on the way. -/
def placeFrom (p : Place) : List String → Place
  | [] => p
  | name :: names =>
    if name == "" || name == "." then placeFrom p names
    else if name == ".." then placeFrom p.dropLast names
    else placeFrom (p ++ [name]) names

namespace Workspace

/-- The place that a path leads to, whatever there is on the way. -/
def placeOf (w : Workspace) (path : String) : Place :=
  placeFrom (if isAbsolute path then [] else w.directory) (components path)

/-- The place that a path names, where there may be nothing yet. -/
def locate (w : Workspace) (path : String) : Except FileFault Place :=
  if path.toList.contains '\x00' then .error .nullInName
  else if path.isEmpty then .error .notFound
  else if path.utf8ByteSize > pathLimit then .error .nameTooLong
  else follow w.tree (if isAbsolute path then [] else w.directory) (components path)

/-- What a path names. -/
def get? (w : Workspace) (path : String) : Except FileFault Entry :=
  match w.locate path with
  | .ok p => match w.tree.get? p with
    | some e => .ok e
    | none => .error .notFound
  | .error fault => .error fault

/-- Whether a path names anything. -/
def has (w : Workspace) (path : String) : Bool := (w.get? path).toOption.isSome

/-- Whether a path names a file. -/
def isFile (w : Workspace) (path : String) : Bool :=
  match w.get? path with
  | .ok (.file _) => true
  | _ => false

/-- Whether a path names a directory. -/
def isDirectory (w : Workspace) (path : String) : Bool :=
  match w.get? path with
  | .ok .directory => true
  | _ => false

/-- The bytes of a file. -/
def read (w : Workspace) (path : String) : Except FileFault ByteArray :=
  match w.get? path with
  | .ok (.file content) => .ok content
  | .ok .directory => .error .isDirectory
  | .error fault => .error fault

/-- The text of a file. -/
def readText (w : Workspace) (path : String) : Except FileFault String :=
  match w.read path with
  | .ok content => match Text.Utf8.decode? content with
    | some text => .ok text
    | none => .error .notText
  | .error fault => .error fault

/-- The workspace with a change to its tree. -/
def withTree (w : Workspace) (t : Tree) : Workspace := { w with tree := t }

/-- Makes one directory. -/
def makeDirectory (w : Workspace) (path : String) : Except FileFault Workspace :=
  match w.locate path with
  | .ok p =>
    if (w.tree.get? p).isSome then .error .exists
    else match w.tree.get? p.dropLast with
      | some .directory => .ok (w.withTree (w.tree.put p .directory))
      | some (.file _) => .error .notDirectory
      | none => .error .notFound
  | .error fault => .error fault

/-- Makes a directory unless it is there. -/
def ensureDirectory (w : Workspace) (path : String) : Except FileFault Workspace :=
  match w.makeDirectory path with
  | .ok w => .ok w
  | .error fault => if w.isDirectory path then .ok w else .error fault

/-- Makes a directory and those on the way to it; `above` are the paths of the directories above it,
the nearest first. A directory above is tried only when the one below it was not found. -/
def makeDirectoriesBelow (w : Workspace) (path : String) :
    (above : List String) → Option FileFault × Workspace
  | [] =>
    if path.isEmpty then (none, w)
    else match w.ensureDirectory path with
      | .ok w => (none, w)
      | .error fault => (some fault, w)
  | parent :: above =>
    if path.isEmpty then (none, w)
    else match w.ensureDirectory path with
      | .ok w => (none, w)
      | .error .notFound =>
        match w.makeDirectoriesBelow parent above with
        | (none, w) =>
          match w.ensureDirectory path with
          | .ok w => (none, w)
          | .error fault => (some fault, w)
        | failed => failed
      | .error fault => (some fault, w)

/-- The paths of up to so many directories above a path, the nearest first. -/
def directoriesAbove (path : String) : (limit : Nat) → List String
  | 0 => []
  | limit + 1 =>
    match parent? path with
    | some parent => parent :: directoriesAbove parent limit
    | none => []

/-- Makes a directory and those on the way to it. -/
def makeDirectories (w : Workspace) (path : String) : Option FileFault × Workspace :=
  w.makeDirectoriesBelow path (directoriesAbove path (path.length + 1))

/-- Removes a directory and all below it. -/
def removeDirectory (w : Workspace) (path : String) : Except FileFault Workspace :=
  match w.locate path with
  | .ok p => match w.tree.get? p with
    | some .directory => .ok (w.withTree (w.tree.prune p))
    | some (.file _) => .error .notDirectory
    | none => .error .notFound
  | .error fault => .error fault

/-- Writes a file in place of any file that was there. -/
def write (w : Workspace) (path : String) (content : ByteArray) : Except FileFault Workspace :=
  match w.locate path with
  | .ok p => match w.tree.get? p with
    | some .directory => .error .isDirectory
    | some (.file _) => .ok (w.withTree (w.tree.put p (.file content)))
    | none => match w.tree.get? p.dropLast with
      | some .directory => .ok (w.withTree (w.tree.put p (.file content)))
      | some (.file _) => .error .notDirectory
      | none => .error .notFound
  | .error fault => .error fault

end Workspace

end TestPlanner.Files
