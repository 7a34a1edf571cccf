/-!
# File trees

A file tree holds directories and files, each at a place: the list of names on the way from the
root. The root itself is always a directory. A tree is known through `get?`; `put` changes it at one
place, and `prune` empties it at one place and below.
-/

set_option autoImplicit false

namespace TestPlanner.Files

/-- The names on the way from the root. -/
abbrev Place := List String

/-- What is at a place. -/
inductive Entry where
  | directory
  | file (content : ByteArray)
  deriving Inhabited

instance : DecidableEq Entry
  | .directory, .directory => isTrue rfl
  | .directory, .file _ => isFalse nofun
  | .file _, .directory => isFalse nofun
  | .file a, .file b =>
    match ByteArray.instDecidableEq a b with
    | isTrue h => isTrue (congrArg Entry.file h)
    | isFalse h => isFalse fun same => h (Entry.file.inj same)

/-- A file tree. -/
structure Tree where
  entries : List (Place × Entry)
  deriving Inhabited

namespace Tree

/-- The tree with nothing but its root. -/
def empty : Tree := ⟨[]⟩

/-- What is at a place, if there is anything. -/
def get? (t : Tree) (p : Place) : Option Entry :=
  if p.isEmpty then some .directory else t.entries.lookup p

/-- The tree with an entry put at a place. -/
def put (t : Tree) (p : Place) (e : Entry) : Tree :=
  ⟨(p, e) :: t.entries.filter fun x => !(x.1 == p)⟩

/-- The tree without a place and all below it. -/
def prune (t : Tree) (p : Place) : Tree :=
  ⟨t.entries.filter fun x => !p.isPrefixOf x.1⟩

/-- Whether there is a directory at a place. -/
def isDirectory (t : Tree) (p : Place) : Bool := t.get? p == some .directory

/-- The tree with directories at a place and at all places on the way, where there is nothing
yet. -/
def putDirectories (t : Tree) (p : Place) : Tree :=
  (List.range p.length).foldl
    (fun t n =>
      let q := p.take (n + 1)
      if (t.get? q).isSome then t else t.put q .directory)
    t

/-- The entries below a place, each at its place as seen from there. -/
def below (t : Tree) (p : Place) : List (Place × Entry) :=
  t.entries.filterMap fun x =>
    if p.isPrefixOf x.1 && p.length < x.1.length then some (x.1.drop p.length, x.2) else none

end Tree

end TestPlanner.Files
