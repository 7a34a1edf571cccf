import TestPlanner.Prose.Sentences
import TestPlanner.Json.Record

/-!
# Markings in JSON

A marking is exchanged with other markers as a record of four lists, none of which may be left out.
-/

set_option autoImplicit false

namespace TestPlanner.Prose

open Json

/-- A list of strings. -/
def stringsToJson (strings : List String) : Json := .array (strings.map Json.string)

/-- The JSON form of a marking. -/
def Marking.toJson (m : Marking) : Json :=
  .object [("people", stringsToJson m.people), ("nouns", stringsToJson m.nouns),
    ("verbs", stringsToJson m.verbs), ("sentences", stringsToJson m.sentences)]

/-- Reads a marking. -/
def Marking.ofJson? (v : Json) : Option Marking :=
  match fields? ["people", "nouns", "verbs", "sentences"] v with
  | some [people, nouns, verbs, sentences] => do
    pure {
      people := ← required (list? string?) people
      nouns := ← required (list? string?) nouns
      verbs := ← required (list? string?) verbs
      sentences := ← required (list? string?) sentences }
  | _ => none

end TestPlanner.Prose
