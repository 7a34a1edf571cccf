import TestPlanner.Json.Parser
import TestPlanner.Json.Record

/-!
# Events of a recorded session

A browser session reports four kinds of events: the page is ready, the user acted, the page was
closed, or the session failed. In JSON an event is a record with its kind in the member `event`; as
an array, the kind comes first.
-/

set_option autoImplicit false

namespace TestPlanner

open Json

/-- What a user did. -/
inductive ActionKind where
  | click
  | fill
  deriving DecidableEq, Repr, Inhabited

/-- The name of an action kind. -/
def ActionKind.name : ActionKind → String
  | .click => "click"
  | .fill => "fill"

/-- The names of the action kinds. -/
def ActionKind.names : List (String × ActionKind) :=
  [.click, .fill].map fun k => (k.name, k)

/-- A recorded action: what was done to which selector, the caption or label of the element, its
tag and input type, and the value typed. -/
structure UserAction where
  kind : ActionKind
  selector : String
  text : Option String
  tag : Option String
  inputType : Option String
  value : Option String
  deriving DecidableEq, Repr, Inhabited

/-- The members of an action's JSON form. -/
def UserAction.members (a : UserAction) : List (String × Json) :=
  [("type", .string a.kind.name), ("selector", .string a.selector),
    ("text", orNull Json.string a.text), ("tag", orNull Json.string a.tag),
    ("inputType", orNull Json.string a.inputType), ("value", orNull Json.string a.value)]

/-- Reads an action; `isEmpty` tells which values a named choice may carry. -/
def UserAction.ofJson? (isEmpty : Json → Bool) (v : Json) : Option UserAction :=
  match fields? ["type", "selector", "text", "tag", "inputType", "value"] v with
  | some [kind, selector, text, tag, inputType, value] => do
    pure {
      kind := ← required (choice? isEmpty ActionKind.names) kind
      selector := ← required string? selector
      text := ← optional string? text
      tag := ← optional string? tag
      inputType := ← optional string? inputType
      value := ← optional string? value }
  | _ => none

/-- An event of a session. -/
inductive SessionEvent where
  | ready (title : Option String)
  | action (a : UserAction)
  | closed
  | error (message : String)
  deriving DecidableEq, Repr, Inhabited

namespace SessionEvent

/-- The JSON form of an event. -/
def toJson : SessionEvent → Json
  | .ready title => .object [("event", .string "ready"), ("title", orNull Json.string title)]
  | .action a => .object (("event", .string "action") :: a.members)
  | .closed => .object [("event", .string "closed")]
  | .error message => .object [("event", .string "error"), ("message", .string message)]

/-- The kind of an event, and the record of its fields. -/
def split? : Json → Option (String × Json)
  | .object members =>
    match soleMember? "event" members with
    | some (some (.string kind)) =>
      some (kind, .object (members.filter fun m => !(m.1 == "event")))
    | _ => none
  | .array (.string kind :: items) => some (kind, .array items)
  | _ => none

/-- Reads the fields of an event of a kind. -/
def ofFields? (kind : String) (v : Json) : Option SessionEvent :=
  if kind == "ready" then
    match fields? ["title"] v with
    | some [title] => (optional string? title).map .ready
    | _ => none
  else if kind == "action" then (UserAction.ofJson? isVoid v).map .action
  else if kind == "closed" then (fields? [] v).map fun _ => .closed
  else if kind == "error" then
    match fields? ["message"] v with
    | some [message] => (required string? message).map .error
    | _ => none
  else none

/-- Reads an event. The whole value has to be one that can be held. -/
def ofJson? (v : Json) : Option SessionEvent :=
  if v.holdable then (split? v).bind fun r => ofFields? r.1 r.2 else none

/-- Reads the text of an event. -/
def ofText? (text : String) : Option SessionEvent := (parse? text).bind ofJson?

end SessionEvent

end TestPlanner
