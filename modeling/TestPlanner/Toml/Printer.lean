import TestPlanner.Toml.Basic
import TestPlanner.Toml.Quoted

/-!
# Writing TOML

A document is its plain entries, one per line, and then its tables, each under a header with an
empty line in front. An array of two or more items has one item per line.
-/

set_option autoImplicit false

namespace TestPlanner.Toml

/-- Whether a value is written under a header of its own. -/
def isTable : Toml → Bool
  | .table _ => true
  | _ => false

/-- A key that needs no quotes, or the key in quotes. -/
def keyChars (key : String) : List Char :=
  let chars := key.toList
  let isBare (c : Char) : Bool := c.isAlphanum || c == '_' || c == '-'
  if !chars.isEmpty && chars.all isBare then chars else Quoted.encode chars

mutual
/-- A value after an equals sign. -/
def valueChars : Toml → List Char
  | .string s => Quoted.encode s.toList
  | .integer n => (toString n).toList
  | .float literal => literal.toList
  | .boolean b => (if b then "true" else "false").toList
  | .date literal => literal.toList
  | .array [] => "[]".toList
  | .array [v] => '[' :: (valueChars v ++ [']'])
  | .array items => '[' :: (itemChars items ++ "\n]".toList)
  | .table entries => '\x7b' :: (inlineChars entries ++ ['\x7d'])

/-- Items on lines of their own. -/
def itemChars : List Toml → List Char
  | [] => []
  | v :: vs => "\n    ".toList ++ valueChars v ++ ',' :: itemChars vs

/-- The entries of a table inside an array. -/
def inlineChars : List (String × Toml) → List Char
  | [] => []
  | [e] => ' ' :: (keyChars e.1 ++ " = ".toList ++ valueChars e.2 ++ [' '])
  | e :: es => ' ' :: (keyChars e.1 ++ " = ".toList ++ valueChars e.2 ++ ',' :: inlineChars es)
end

/-- An entry on its line. -/
def entryChars (e : String × Toml) : List Char :=
  keyChars e.1 ++ " = ".toList ++ valueChars e.2 ++ ['\n']

/-- The plain entries of a table. -/
def plainChars (entries : List (String × Toml)) : List Char :=
  (entries.filter fun e => !e.2.isTable).flatMap entryChars

mutual
/-- The tables among entries, each under its header below the headers `path`. -/
def tableChars (path : List Char) : List (String × Toml) → List Char
  | [] => []
  | (key, v) :: es => sectionChars path key v ++ tableChars path es

/-- A table under its header. -/
def sectionChars (path : List Char) (key : String) : Toml → List Char
  | .table entries =>
    let name := if path.isEmpty then keyChars key else path ++ '.' :: keyChars key
    "\n[".toList ++ name ++ "]\n".toList ++ plainChars entries ++ tableChars name entries
  | _ => []
end

/-- The document of a table's entries. -/
def document (entries : List (String × Toml)) : String :=
  String.ofList (plainChars entries ++ tableChars [] entries)

end TestPlanner.Toml
