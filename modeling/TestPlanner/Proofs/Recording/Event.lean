import TestPlanner.Proofs.Json.Record
import TestPlanner.Recording.Event

/-!
# Events are read back from their lines

An event is written as one object: its kind in the member `event`, and beside it the members of
what it carries. The reader takes the kind out first and reads the other members as the record of
that kind. Whatever the texts of an event are, and whichever of them are absent, it is read back as
it was (`ofText?_compact`).
-/

set_option autoImplicit false

namespace TestPlanner

open Json

theorem ActionKind.choice?_name (isEmpty : Json → Bool) (k : ActionKind) :
    choice? isEmpty ActionKind.names (.string k.name) = some k := by
  cases k <;> rfl

/-- The fields of an action's JSON form. -/
def UserAction.fields (a : UserAction) : List (String × Option Json) :=
  [("type", some (.string a.kind.name)), ("selector", some (.string a.selector)),
    ("text", some (orNull Json.string a.text)), ("tag", some (orNull Json.string a.tag)),
    ("inputType", some (orNull Json.string a.inputType)),
    ("value", some (orNull Json.string a.value))]

theorem UserAction.members_eq (a : UserAction) : a.members = membersOf a.fields := rfl

theorem UserAction.ofJson?_members (isEmpty : Json → Bool) (a : UserAction) :
    UserAction.ofJson? isEmpty (.object a.members) = some a := by
  have found : fields? ["type", "selector", "text", "tag", "inputType", "value"]
      (.object a.members) = some (a.fields.map Prod.snd) := by
    rw [a.members_eq]
    exact fields?_membersOf rfl (by decide)
  rw [ofJson?, found]
  simp only [fields, List.map_cons, List.map_nil, required, string?, a.kind.choice?_name,
    optional_string_orNull]
  rfl

namespace SessionEvent

/-- The name of an event's kind. -/
def kind : SessionEvent → String
  | .ready _ => "ready"
  | .action _ => "action"
  | .closed => "closed"
  | .error _ => "error"

/-- The members of what an event carries. -/
def members : SessionEvent → List (String × Json)
  | .ready title => [("title", orNull Json.string title)]
  | .action a => a.members
  | .closed => []
  | .error message => [("message", .string message)]

theorem split?_toJson (e : SessionEvent) : split? e.toJson = some (e.kind, .object e.members) := by
  cases e <;> rfl

theorem ofFields?_members (e : SessionEvent) : ofFields? e.kind (.object e.members) = some e := by
  cases e with
  | ready title =>
    change (Json.optional string? (some (orNull Json.string title))).map SessionEvent.ready = _
    rw [optional_string_orNull]
    rfl
  | action a =>
    change (UserAction.ofJson? isVoid (.object a.members)).map SessionEvent.action = _
    rw [UserAction.ofJson?_members]
    rfl
  | closed => rfl
  | error message => rfl

/-! ## Texts of events -/

section Text

variable (o : Option String)

theorem exact_orNull : (orNull Json.string o).exact = true := by cases o <;> rfl

theorem depth_orNull : (orNull Json.string o).depth = 0 := by cases o <;> rfl

theorem writable_orNull : (orNull Json.string o).writable = true := by cases o <;> rfl

end Text

theorem holdable_toJson (e : SessionEvent) : e.toJson.holdable = true := by
  cases e <;>
    simp [toJson, UserAction.members, holdable, exact, exactMembers, exact_orNull, depth,
      depthMembers, depth_orNull, depthLimit]

theorem writable_toJson (e : SessionEvent) : e.toJson.writable = true := by
  cases e <;> simp [toJson, UserAction.members, writable, writableMembers, writable_orNull]

theorem ofJson?_toJson (e : SessionEvent) : ofJson? e.toJson = some e := by
  rw [ofJson?, if_pos e.holdable_toJson, split?_toJson, Option.bind_some, ofFields?_members]

/-- **The text of an event is read back as the event.** -/
theorem ofText?_compact (e : SessionEvent) : ofText? e.toJson.compact = some e := by
  rw [ofText?, parse?_compact e.writable_toJson, Option.bind_some, ofJson?_toJson]

end SessionEvent

end TestPlanner
