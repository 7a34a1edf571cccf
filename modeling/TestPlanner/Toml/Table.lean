import TestPlanner.Toml.Basic

/-!
# Building TOML tables

A document adds to its tables piece by piece, and TOML forbids most ways of adding to the same
table twice. A table under construction remembers how it came about: by its own header, only as
part of a longer header (`implicit`), or by a dotted key (`dotted`).

- A header may complete an implicit table that no dotted key made, once.
- A dotted key may add a value to tables that dotted keys made, and to no others.
- A table or array written as a value is complete.
- A double-bracket header adds an element to an array of tables, and later headers and dotted keys
  below it speak of the last element.
-/

set_option autoImplicit false

namespace TestPlanner.Toml

/-- An entry of a table under construction. -/
inductive Node where
  | value (v : Toml)
  | table (implicit dotted : Bool) (entries : List (String × Node))
  | tables (items : List (List (String × Node)))

/-- A table under construction. -/
structure Table where
  implicit : Bool
  dotted : Bool
  entries : List (String × Node)

namespace Table

/-- A table that a header or a value made, without entries. -/
def empty : Table := ⟨false, false, []⟩

/-- The entry of a key. -/
def get? (t : Table) (key : String) : Option Node := t.entries.lookup key

/-- A table with the entry of a key replaced or added. -/
def set (t : Table) (key : String) (node : Node) : Table :=
  if (t.get? key).isSome then
    { t with entries := t.entries.map fun e => if e.1 == key then (key, node) else e }
  else { t with entries := t.entries ++ [(key, node)] }

/-- A table without the entry of a key. -/
def erase (t : Table) (key : String) : Table :=
  { t with entries := t.entries.filter fun e => !(e.1 == key) }

/-- Changes the table at a path, making the tables on the way that are missing. `dotted` tells
whether the path comes from a dotted key. -/
def within (dotted : Bool) (change : Table → Option Table) : List String → Table → Option Table
  | [], t => change t
  | key :: path, t =>
    match t.get? key with
    | none => do
      let sub ← within dotted change path ⟨true, dotted, []⟩
      pure (t.set key (.table sub.implicit sub.dotted sub.entries))
    | some (.value _) => none
    | some (.table implicit isDotted entries) =>
      if dotted && !implicit then none
      else do
        let sub ← within dotted change path ⟨implicit, isDotted, entries⟩
        pure (t.set key (.table sub.implicit sub.dotted sub.entries))
    | some (.tables items) =>
      match items.getLast? with
      | none => none
      | some entries => do
        let sub ← within dotted change path ⟨false, false, entries⟩
        pure (t.set key (.tables (items.dropLast ++ [sub.entries])))

/-- Adds a value under a key that may be dotted. -/
def addValue (path : List String) (key : String) (v : Toml) (t : Table) : Option Table :=
  within true
    (fun t =>
      if t.dotted == path.isEmpty || (t.get? key).isSome then none
      else some (t.set key (.value v)))
    path t

end Table

mutual
/-- The value of a node. -/
def Node.toToml : Node → Toml
  | .value v => v
  | .table _ _ entries => .table (entriesToToml entries)
  | .tables items => .array (itemsToToml items)

/-- The values of entries. -/
def entriesToToml : List (String × Node) → List (String × Toml)
  | [] => []
  | (key, node) :: rest => (key, node.toToml) :: entriesToToml rest

/-- The values of the elements of an array of tables. -/
def itemsToToml : List (List (String × Node)) → List Toml
  | [] => []
  | entries :: rest => .table (entriesToToml entries) :: itemsToToml rest
end

/-- A document under construction: the finished tables, and the one that lines are added to, with
its path and whether it is an element of an array of tables. -/
structure Draft where
  root : Table
  current : Table
  path : List String
  isElement : Bool

namespace Draft

/-- The draft before any line. -/
def empty : Draft := ⟨.empty, .empty, [], false⟩

/-- The finished tables with the current one put in its place. -/
def close (d : Draft) : Option Table :=
  match d.path.getLast? with
  | none => some d.current
  | some key =>
    d.root.within false
      (fun parent =>
        if d.isElement then
          match parent.get? key with
          | some (.tables items) =>
            some (parent.set key (.tables (items ++ [d.current.entries])))
          | none => some (parent.set key (.tables [d.current.entries]))
          | _ => none
        else if (parent.get? key).isSome then none
        else
          some (parent.set key (.table d.current.implicit d.current.dotted d.current.entries)))
      d.path.dropLast

/-- The entry of the last key of a path, the tables on the way being made if they are missing. -/
def lookup? (root : Table) (path : List String) (key : String) : Option (Option Node) :=
  go root path
where
  /-- the entry below a table -/
  go (t : Table) : List String → Option (Option Node)
    | [] => some (t.get? key)
    | k :: path =>
      match t.get? k with
      | none => some none
      | some (.value _) => none
      | some (.table i d entries) => go ⟨i, d, entries⟩ path
      | some (.tables items) =>
        match items.getLast? with
        | none => none
        | some entries => go ⟨false, false, entries⟩ path

/-- The draft after a table header. -/
def startTable (d : Draft) (path : List String) : Option Draft :=
  match path.getLast? with
  | none => none
  | some key => do
    let root ← d.close
    match ← lookup? root path.dropLast key with
    | none => pure ⟨root, .empty, path, false⟩
    | some (.table true false entries) =>
      let root ← root.within false (fun parent => some (parent.erase key)) path.dropLast
      pure ⟨root, ⟨false, false, entries⟩, path, false⟩
    | some _ => none

/-- The draft after the header of an array element. -/
def startElement (d : Draft) (path : List String) : Option Draft :=
  match path.getLast? with
  | none => none
  | some key => do
    let root ← d.close
    match ← lookup? root path.dropLast key with
    | none => pure ⟨root, .empty, path, true⟩
    | some (.tables _) => pure ⟨root, .empty, path, true⟩
    | some _ => none

/-- The draft after an entry of the current table. -/
def addValue (d : Draft) (path : List String) (key : String) (v : Toml) : Option Draft :=
  (d.current.addValue path key v).map fun t => { d with current := t }

/-- The entries of the finished document. -/
def finish (d : Draft) : Option (List (String × Toml)) :=
  d.close.map fun t => entriesToToml t.entries

end Draft

end TestPlanner.Toml
