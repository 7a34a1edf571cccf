import TestPlanner.Json.Parser
import TestPlanner.Json.Record

/-!
# Fields detected on a screenshot

A detector reports the fields it found as JSON: a list of fields, or an object whose member
`fields` is that list. A field has a label, which may be left out, and a type. The types that lead
to a step are `button` and `text`; every other string stands for a field of another type.
-/

set_option autoImplicit false

namespace TestPlanner

open Json

/-- The type of a detected field. -/
inductive FieldKind where
  | button
  | text
  | other
  deriving DecidableEq, Repr, Inhabited

/-- The name of a field type. -/
def FieldKind.name : FieldKind → String
  | .button => "button"
  | .text => "text"
  | .other => "other"

/-- The field type of a name. -/
def FieldKind.ofName (name : String) : FieldKind :=
  if name == "button" then .button else if name == "text" then .text else .other

/-- A field found on a screenshot. -/
structure DetectedField where
  label : String
  kind : FieldKind
  deriving DecidableEq, Repr, Inhabited

namespace DetectedField

/-- The JSON form of a field. -/
def toJson (f : DetectedField) : Json :=
  .object [("label", .string f.label), ("type", .string f.kind.name)]

/-- Reads a field. -/
def ofJson? (v : Json) : Option DetectedField :=
  match fields? ["label", "type"] v with
  | some [label, kind] => do
    pure {
      label := ← defaulted "" string? label
      kind := ← required (fun k => (choiceName? isNull k).map FieldKind.ofName) kind }
  | _ => none

/-- Reads a list of fields. -/
def listOfJson? (v : Json) : Option (List DetectedField) := list? ofJson? v

/-- Reads an object that holds a list of fields. -/
def wrappedOfJson? : Json → Option (List DetectedField)
  | .object members => (soleMember? "fields" members).bind (required listOfJson?)
  | _ => none

/-- Reads a detector's report. The whole report has to be a value that can be held. -/
def reportOfJson? (v : Json) : Option (List DetectedField) :=
  if v.holdable then (listOfJson? v).or (wrappedOfJson? v) else none

/-- Reads the text of a detector's report. -/
def report? (text : String) : Option (List DetectedField) :=
  (parse? text).bind reportOfJson?

end DetectedField

end TestPlanner
