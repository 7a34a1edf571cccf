/-!
# Paths

Paths as strings, with a slash between components. Joining, and the parts of the last component:
its stem and its extension, with empty and dot components at the end of a path passed over.
-/

set_option autoImplicit false

namespace TestPlanner.Files

/-- Whether a path starts at the root. -/
def isAbsolute (path : String) : Bool := path.toList.head? == some '/'

/-- The second path as seen from the first: the second alone if it starts at the root, and
otherwise both with one slash between them. -/
def join (base path : String) : String :=
  if isAbsolute path then path
  else if base.isEmpty || base.toList.getLast? == some '/' then base ++ path
  else base ++ "/" ++ path

/-- The components of a path between its slashes, empty ones included. -/
def components (path : String) : List String :=
  (path.toList.splitOnP (· == '/')).map String.ofList

/-- A reversed path without the slashes and the dot components at its end. -/
def dropTrailing : List Char → List Char
  | '/' :: s => dropTrailing s
  | '.' :: '/' :: s => dropTrailing ('/' :: s)
  | s => s
termination_by s => s.length

/-- A path split before its last component, empty and dot components at the end passed over.
There is no last component when the path ends in a double dot or has none at all. -/
def splitLast? (path : List Char) : Option (List Char × List Char) :=
  let s := dropTrailing path.reverse
  let name := (s.takeWhile (· != '/')).reverse
  if name.isEmpty || name == ['.'] || name == ['.', '.'] then none
  else some ((s.dropWhile (· != '/')).reverse, name)

/-- The last component of a path. -/
def fileName? (path : String) : Option String :=
  (splitLast? path.toList).map fun r => String.ofList r.2

/-- A component split at its last dot, unless the dot comes first. -/
def splitExtension (name : List Char) : List Char × Option (List Char) :=
  let after := (name.reverse.takeWhile (· != '.')).reverse
  match name.reverse.dropWhile (· != '.') with
  | [] => (name, none)
  | [_] => (name, none)
  | _ :: stem => (stem.reverse, some after)

/-- The last component without its extension. -/
def fileStem? (path : String) : Option String :=
  (splitLast? path.toList).map fun r => String.ofList (splitExtension r.2).1

/-- The extension of the last component. -/
def extension? (path : String) : Option String :=
  (splitLast? path.toList).bind fun r => (splitExtension r.2).2.map String.ofList

/-- The path with the extension of its last component replaced or added. The old extension's
length is first cut from the end of the path, and a path that then has no last component stays as
it is. -/
def withExtension (path extension : String) : String :=
  let old := (extension? path).getD ""
  let kept := path.toList.take (path.length - old.length)
  match splitLast? kept with
  | none => String.ofList kept
  | some (parent, name) =>
    String.ofList (parent ++ (splitExtension name).1) ++ "." ++ extension

/-- The path without its last component, which may be a double dot. The root and the empty path have
none. -/
def parent? (path : String) : Option String :=
  let s := dropTrailing path.toList.reverse
  if s.isEmpty then none
  else
    let rest := s.dropWhile (· != '/')
    let parent := dropTrailing rest
    if parent.isEmpty && !rest.isEmpty then some "/"
    else some (String.ofList parent.reverse)

end TestPlanner.Files
