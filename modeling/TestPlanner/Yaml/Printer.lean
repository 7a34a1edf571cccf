import TestPlanner.Json.Printer
import TestPlanner.Yaml.Scalar

/-!
# Writing YAML

A value in block layout: each member on its line, two spaces deeper than the object that holds it,
and each item behind a dash, no deeper than the member that holds the list. Empty lists and objects
are written as pairs of brackets.
-/

set_option autoImplicit false

namespace TestPlanner.Yaml

/-- Spaces. -/
def spaces (n : Nat) : List Char := List.replicate n ' '

/-- A value on the line of its mark, up to the end of the line; `indent` is the indentation of
blocks. -/
def scalarChars (indent : Nat) : Json → List Char
  | .string s => stringChars indent s.toList
  | v => v.compactChars ++ ['\n']

mutual
/-- A member at an indentation; `lead` is what stands in front of its key. -/
def memberChars (lead : List Char) (indent : Nat) (key : String) : Json → List Char
  | .array (v :: vs) =>
    lead ++ key.toList ++ [':', '\n'] ++ itemsChars (spaces indent) indent (v :: vs)
  | .object (m :: ms) =>
    lead ++ key.toList ++ [':', '\n'] ++ membersChars (spaces (indent + 2)) (indent + 2) (m :: ms)
  | v => lead ++ key.toList ++ [':', ' '] ++ scalarChars (indent + 2) v

/-- An item whose dash is at an indentation; `lead` is what stands in front of the dash. -/
def itemChars (lead : List Char) (indent : Nat) : Json → List Char
  | .array (v :: vs) => itemsChars (lead ++ ['-', ' ']) (indent + 2) (v :: vs)
  | .object (m :: ms) => membersChars (lead ++ ['-', ' ']) (indent + 2) (m :: ms)
  | v => lead ++ ['-', ' '] ++ scalarChars (indent + 2) v

/-- Items; `lead` is what stands in front of the first. -/
def itemsChars (lead : List Char) (indent : Nat) : List Json → List Char
  | [] => []
  | v :: vs => itemChars lead indent v ++ itemsChars (spaces indent) indent vs

/-- Members; `lead` is what stands in front of the first. -/
def membersChars (lead : List Char) (indent : Nat) : List (String × Json) → List Char
  | [] => []
  | m :: ms => memberChars lead indent m.1 m.2 ++ membersChars (spaces indent) indent ms
end

/-- A value as a document. -/
def document : Json → String
  | .object (m :: ms) => String.ofList (membersChars [] 0 (m :: ms))
  | .array (v :: vs) => String.ofList (itemsChars [] 0 (v :: vs))
  | v => String.ofList (scalarChars 2 v)

end TestPlanner.Yaml
