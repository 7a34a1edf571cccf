import TestPlanner.Proofs.Json.Record
import TestPlanner.Screenshot.Field

/-!
# The envelopes of a detector's report

A report is a list of fields, or an object that holds the list under `fields`. Both carry the same
fields, in order and with any labels, in every form that a field may have: the type `other` stands
under any name but `button` and `text`, and an empty label may be left out (`Form`).

**Neighbours.** What else an object holds is not looked at, but the whole report has to be held
before it is read. A neighbour that cannot be held, for example because it is nested too deeply,
spoils the report (`spoilt_by_neighbour`); a list by itself is never spoilt.

**Faults.** No field is lost: one object without a type among the items makes the whole report
unreadable, in either envelope.

All of this is collected in `Laws`, which every list of fields obeys (`envelopes_alike`).
-/

set_option autoImplicit false

namespace TestPlanner

open Json

universe u

/-! ## Lists and members -/

section Lists

variable {α β : Type u} {read : α → Option β} {l : List α}

/-- A list is read item by item. -/
theorem mapM_eq_some_of_forall₂ {values : List β}
    (each : List.Forall₂ (fun b a => read a = some b) values l) : l.mapM read = some values := by
  induction each with
  | nil => rfl
  | cons first _ ih =>
    rw [List.mapM_cons, first, ih]
    rfl

/-- A list cannot be read if one of its items cannot. -/
theorem mapM_eq_none_of_mem {a : α} (member : a ∈ l) (fails : read a = none) :
    l.mapM read = none := by
  induction l with
  | nil => exact absurd member List.not_mem_nil
  | cons b l ih =>
    rw [List.mapM_cons]
    rcases List.mem_cons.mp member with rfl | later
    · rw [fails]
      rfl
    · rw [ih later]
      cases read b <;> rfl

end Lists

namespace Json

variable {key : String} {items : List Json} {members before after : List (String × Json)}

theorem filter_key_of_forall_ne (absent : ∀ m ∈ members, m.1 ≠ key) :
    members.filter (fun m => m.1 == key) = [] := by
  rw [List.filter_eq_nil_iff]
  intro m member
  simpa using absent m member

/-- A key that no member has. -/
theorem soleMember?_of_forall_ne (absent : ∀ m ∈ members, m.1 ≠ key) :
    soleMember? key members = some none := by
  rw [soleMember?, filter_key_of_forall_ne absent]

/-- A key that one member has. -/
theorem soleMember?_of_others (others : ∀ m ∈ before ++ after, m.1 ≠ key) (v : Json) :
    soleMember? key (before ++ (key, v) :: after) = some (some v) := by
  have front := filter_key_of_forall_ne fun m member => others m (List.mem_append_left _ member)
  have back := filter_key_of_forall_ne fun m member => others m (List.mem_append_right _ member)
  have own : ((key, v) :: after).filter (fun m => m.1 == key) = [(key, v)] := by
    rw [List.filter_cons, if_pos (beq_self_eq_true key), back]
  rw [soleMember?, List.filter_append, front, own]
  rfl

theorem exactItems_iff : exactItems items = true ↔ ∀ v ∈ items, v.exact = true := by
  induction items with
  | nil => simp [exactItems]
  | cons v items ih => rw [exactItems, Bool.and_eq_true, ih, List.forall_mem_cons]

theorem depthItems_le_iff {limit : Nat} :
    depthItems items ≤ limit ↔ ∀ v ∈ items, v.depth ≤ limit := by
  induction items with
  | nil => simp [depthItems]
  | cons v items ih => rw [depthItems, Nat.max_le, ih, List.forall_mem_cons]

theorem exactMembers_iff : exactMembers members = true ↔ ∀ m ∈ members, m.2.exact = true := by
  induction members with
  | nil => simp [exactMembers]
  | cons m members ih => rw [exactMembers, Bool.and_eq_true, ih, List.forall_mem_cons]

theorem depthMembers_le_iff {limit : Nat} :
    depthMembers members ≤ limit ↔ ∀ m ∈ members, m.2.depth ≤ limit := by
  induction members with
  | nil => simp [depthMembers]
  | cons m members ih => rw [depthMembers, Nat.max_le, ih, List.forall_mem_cons]

theorem writableItems_iff : writableItems items = true ↔ ∀ v ∈ items, v.writable = true := by
  induction items with
  | nil => simp [writableItems]
  | cons v items ih => rw [writableItems, Bool.and_eq_true, ih, List.forall_mem_cons]

theorem writableMembers_iff :
    writableMembers members = true ↔ ∀ m ∈ members, m.2.writable = true := by
  induction members with
  | nil => simp [writableMembers]
  | cons m members ih => rw [writableMembers, Bool.and_eq_true, ih, List.forall_mem_cons]

/-- Whether a value can be held as a member of an outermost object: it is exact, and nested less
deeply than a whole text may be. -/
def holdableInside (v : Json) : Bool := v.exact && v.depth < depthLimit

theorem holdable_object_iff :
    (object members).holdable = true ↔ ∀ m ∈ members, m.2.holdableInside = true := by
  have inner : depthMembers members + 1 ≤ depthLimit ↔ depthMembers members ≤ depthLimit - 1 := by
    simp only [depthLimit]
    omega
  simp only [holdable, exact, depth, Bool.and_eq_true, decide_eq_true_eq, exactMembers_iff, inner,
    depthMembers_le_iff, holdableInside]
  rw [← forall₂_and]
  refine forall₂_congr fun m _ => and_congr_right fun _ => ?_
  simp only [depthLimit]
  omega

end Json

namespace DetectedField

variable {f : DetectedField} {fields : List DetectedField} {items : List Json}

/-! ## Fields -/

/-- Whether a name in a report stands for a field type. -/
def StandsFor (name : String) : FieldKind → Prop
  | .button => name = "button"
  | .text => name = "text"
  | .other => name ≠ "button" ∧ name ≠ "text"

theorem StandsFor.ofName_eq {name : String} {kind : FieldKind} (stands : StandsFor name kind) :
    FieldKind.ofName name = kind := by
  cases kind with
  | button => rw [show name = "button" from stands]; rfl
  | text => rw [show name = "text" from stands]; rfl
  | other =>
    rw [FieldKind.ofName, if_neg (by simpa using stands.1), if_neg (by simpa using stands.2)]

theorem standsFor_name (kind : FieldKind) : StandsFor kind.name kind := by
  cases kind with
  | button => exact rfl
  | text => exact rfl
  | other => exact ⟨by decide, by decide⟩

/-- The forms of a field in a report. -/
inductive Form (f : DetectedField) : Json → Prop where
  | labelled (name : String) (stands : StandsFor name f.kind) :
      Form f (.object [("label", .string f.label), ("type", .string name)])
  | unlabelled (name : String) (stands : StandsFor name f.kind) (empty : f.label = "") :
      Form f (.object [("type", .string name)])

namespace Form

variable {v : Json}

/-- **A field is read from each of its forms.** -/
theorem ofJson?_eq (form : Form f v) : ofJson? v = some f := by
  obtain ⟨label, kind⟩ := f
  cases form with
  | labelled name stands =>
    have named : FieldKind.ofName name = kind := stands.ofName_eq
    rw [← named]
    rfl
  | unlabelled name stands empty =>
    have named : FieldKind.ofName name = kind := stands.ofName_eq
    have unlabelled : label = "" := empty
    rw [← named, unlabelled]
    rfl

theorem exact_eq (form : Form f v) : v.exact = true := by
  cases form <;> rfl

theorem depth_eq (form : Form f v) : v.depth = 1 := by
  cases form <;> rfl

theorem writable_eq (form : Form f v) : v.writable = true := by
  cases form <;> rfl

end Form

/-- An object without a type is no field. -/
theorem ofJson?_untyped {members : List (String × Json)}
    (untyped : ∀ m ∈ members, m.1 ≠ "type") : ofJson? (.object members) = none := by
  have found : fields? ["label", "type"] (.object members) =
      (soleMember? "label" members).map fun label => [label, none] := by
    rw [fields?, List.mapM_cons, List.mapM_cons, soleMember?_of_forall_ne untyped]
    cases soleMember? "label" members <;> rfl
  rw [ofJson?, found]
  cases soleMember? "label" members with
  | none => rfl
  | some label =>
    simp only [Option.map_some, required]
    cases defaulted "" string? label <;> rfl

/-! ## Lists of fields -/

theorem forall₂_form_toJson (fields : List DetectedField) :
    List.Forall₂ Form fields (fields.map toJson) := by
  rw [List.forall₂_map_right_iff, List.forall₂_same]
  exact fun f _ => .labelled f.kind.name (standsFor_name f.kind)

section Forms

variable (forms : List.Forall₂ Form fields items)

include forms

theorem listOfJson?_of_forms : listOfJson? (.array items) = some fields :=
  mapM_eq_some_of_forall₂ (forms.imp fun _ _ form => form.ofJson?_eq)

theorem exists_form_of_mem : ∀ v ∈ items, ∃ f, Form f v := by
  induction forms with
  | nil => exact List.forall_mem_nil _
  | cons first _ ih => exact List.forall_mem_cons.mpr ⟨⟨_, first⟩, ih⟩

/-- A list of fields is exact, nested two deep, and can be written. -/
theorem exact_array : (Json.array items).exact = true := by
  rw [Json.exact, exactItems_iff]
  intro v member
  obtain ⟨f, form⟩ := exists_form_of_mem forms v member
  exact form.exact_eq

theorem depth_array_le : (Json.array items).depth ≤ 2 := by
  rw [Json.depth, Nat.succ_le_succ_iff, depthItems_le_iff]
  intro v member
  obtain ⟨f, form⟩ := exists_form_of_mem forms v member
  exact form.depth_eq.le

theorem writable_array : (Json.array items).writable = true := by
  rw [Json.writable, writableItems_iff]
  intro v member
  obtain ⟨f, form⟩ := exists_form_of_mem forms v member
  exact form.writable_eq

theorem holdable_array : (Json.array items).holdable = true := by
  have shallow := depth_array_le forms
  rw [holdable, exact_array forms, Bool.true_and, decide_eq_true_eq, depthLimit]
  omega

end Forms

/-! ## Envelopes -/

variable {before after : List (String × Json)}

/-- The object that holds a list of values among other members. -/
def envelope (before : List (String × Json)) (items : List Json) (after : List (String × Json)) :
    Json :=
  .object (before ++ ("fields", .array items) :: after)

/-- A list is read from its object as it is by itself, if the whole can be held. -/
theorem reportOfJson?_envelope (others : ∀ m ∈ before ++ after, m.1 ≠ "fields") :
    reportOfJson? (envelope before items after) =
      if (envelope before items after).holdable then listOfJson? (.array items) else none := by
  have bare : listOfJson? (envelope before items after) = none := rfl
  have inside : wrappedOfJson? (envelope before items after) = listOfJson? (.array items) := by
    rw [envelope, wrappedOfJson?, soleMember?_of_others others]
    rfl
  rw [reportOfJson?, bare, inside, Option.none_or]

theorem reportOfJson?_array :
    reportOfJson? (.array items) =
      if (Json.array items).holdable then listOfJson? (.array items) else none := by
  have inside : wrappedOfJson? (.array items) = none := rfl
  rw [reportOfJson?, inside, Option.or_none]

/-- What holds of all members of an object around a list, the list's own member apart. -/
theorem forall_mem_envelope_iff (p : Json → Bool) (own : p (.array items) = true) :
    (∀ m ∈ before ++ ("fields", .array items) :: after, p m.2 = true) ↔
      ∀ m ∈ before ++ after, p m.2 = true := by
  simp only [List.forall_mem_append, List.forall_mem_cons, own, true_and]

/-- An object that holds a list of fields can be held if its other members can. -/
theorem holdable_envelope_iff (forms : List.Forall₂ Form fields items) :
    (envelope before items after).holdable = true ↔
      ∀ m ∈ before ++ after, m.2.holdableInside = true := by
  have own : (Json.array items).holdableInside = true := by
    have shallow := depth_array_le forms
    rw [holdableInside, exact_array forms, Bool.true_and, decide_eq_true_eq, depthLimit]
    omega
  rw [envelope, holdable_object_iff, forall_mem_envelope_iff holdableInside own]

theorem writable_envelope_iff (forms : List.Forall₂ Form fields items) :
    (envelope before items after).writable = true ↔ ∀ m ∈ before ++ after, m.2.writable = true := by
  rw [envelope, writable, writableMembers_iff,
    forall_mem_envelope_iff Json.writable (writable_array forms)]

section Texts

variable {text : String}

/-- The text of a list of fields is read as the fields. -/
theorem report?_of_array (forms : List.Forall₂ Form fields items)
    (spelt : parse? text = some (.array items)) : report? text = some fields := by
  rw [report?, spelt, Option.bind_some, reportOfJson?_array, if_pos (holdable_array forms),
    listOfJson?_of_forms forms]

variable (others : ∀ m ∈ before ++ after, m.1 ≠ "fields")
  (spelt : parse? text = some (envelope before items after))

include others spelt

/-- The text of an object that holds a list of fields is read as the fields. -/
theorem report?_of_envelope (forms : List.Forall₂ Form fields items)
    (held : ∀ m ∈ before ++ after, m.2.holdableInside = true) : report? text = some fields := by
  rw [report?, spelt, Option.bind_some, reportOfJson?_envelope others,
    if_pos ((holdable_envelope_iff forms).mpr held), listOfJson?_of_forms forms]

/-- It is not read at all if a neighbour cannot be held. -/
theorem report?_of_spoilt (forms : List.Forall₂ Form fields items)
    (unheld : ∃ m ∈ before ++ after, m.2.holdableInside = false) : report? text = none := by
  have spoils : ¬ (envelope before items after).holdable = true := by
    rw [holdable_envelope_iff forms]
    obtain ⟨m, member, fails⟩ := unheld
    exact fun held => Bool.false_ne_true (fails.symm.trans (held m member))
  rw [report?, spelt, Option.bind_some, reportOfJson?_envelope others, if_neg spoils]

end Texts

/-! ## The laws of reports -/

/-- The laws of the reports of a list of fields. The items of a report are any forms of the fields,
and its text is any text of the value. -/
structure Laws (fields : List DetectedField) : Prop where
  /-- The fields as they are written are forms of them. -/
  written : List.Forall₂ Form fields (fields.map toJson)
  /-- Forms of fields can be written as a list, in either layout. -/
  list_layouts : ∀ items, List.Forall₂ Form fields items →
    parse? (Json.array items).compact = some (.array items) ∧
      parse? (Json.array items).pretty = some (.array items)
  /-- So can an object that holds the list, if its other members can. -/
  object_layouts : ∀ items, List.Forall₂ Form fields items →
    ∀ before after, (∀ m ∈ before ++ after, m.2.writable = true) →
      parse? (envelope before items after).compact = some (envelope before items after) ∧
        parse? (envelope before items after).pretty = some (envelope before items after)
  /-- The fields are read from the list. -/
  bare : ∀ items, List.Forall₂ Form fields items →
    ∀ text, parse? text = some (.array items) → report? text = some fields
  /-- The fields are read from an object that holds the list, whatever its other keys, if the values
  of these can be held. -/
  wrapped : ∀ items, List.Forall₂ Form fields items →
    ∀ before after, (∀ m ∈ before ++ after, m.1 ≠ "fields") →
      (∀ m ∈ before ++ after, m.2.holdableInside = true) →
      ∀ text, parse? text = some (envelope before items after) → report? text = some fields
  /-- If one of these values cannot be held, nothing is read. -/
  spoilt : ∀ items, List.Forall₂ Form fields items →
    ∀ before after, (∀ m ∈ before ++ after, m.1 ≠ "fields") →
      (∃ m ∈ before ++ after, m.2.holdableInside = false) →
      ∀ text, parse? text = some (envelope before items after) → report? text = none
  /-- One object without a type, among whatever items, and nothing is read in either envelope. -/
  untyped : ∀ items members, .object members ∈ items → (∀ m ∈ members, m.1 ≠ "type") →
    (∀ text, parse? text = some (.array items) → report? text = none) ∧
    ∀ before after, (∀ m ∈ before ++ after, m.1 ≠ "fields") →
      ∀ text, parse? text = some (envelope before items after) → report? text = none

/-- **Both envelopes carry the same fields.** -/
theorem envelopes_alike (fields : List DetectedField) : Laws fields where
  written := forall₂_form_toJson fields
  list_layouts items forms :=
    ⟨parse?_compact (writable_array forms), parse?_pretty (writable_array forms)⟩
  object_layouts items forms before after others := by
    have writable := (writable_envelope_iff forms).mpr others
    exact ⟨parse?_compact writable, parse?_pretty writable⟩
  bare items forms text spelt := report?_of_array forms spelt
  wrapped items forms before after others held text spelt :=
    report?_of_envelope others spelt forms held
  spoilt items forms before after others unheld text spelt :=
    report?_of_spoilt others spelt forms unheld
  untyped items members member untyped := by
    have unread : listOfJson? (.array items) = none :=
      mapM_eq_none_of_mem member (ofJson?_untyped untyped)
    refine ⟨fun text spelt => ?_, fun before after others text spelt => ?_⟩
    · rw [report?, spelt, Option.bind_some, reportOfJson?_array, unread, ite_self]
    · rw [report?, spelt, Option.bind_some, reportOfJson?_envelope others, unread, ite_self]

/-! ## A neighbour that spoils a report -/

/-- An empty array inside so many arrays. -/
def nested : Nat → Json
  | 0 => .array []
  | n + 1 => .array [nested n]

theorem depth_nested (n : Nat) : (nested n).depth = n + 1 := by
  induction n with
  | zero => rfl
  | succ n ih => simp [nested, depth, depthItems, ih]

theorem writable_nested (n : Nat) : (nested n).writable = true := by
  induction n with
  | zero => rfl
  | succ n ih => simp [nested, writable, writableItems, ih]

/-- A field beside a member that is nested two hundred deep is not read. -/
theorem spoilt_by_neighbour :
    let field : DetectedField := ⟨"Pay", .button⟩
    let report := envelope [] [field.toJson] [("more", nested 199)]
    parse? report.compact = some report ∧ report? report.compact = none := by
  intro field report
  have spelt : parse? report.compact = some report := by
    refine parse?_compact ?_
    simp [report, field, envelope, toJson, writable, writableMembers, writableItems,
      writable_nested]
  have deep : (nested 199).holdableInside = false := by
    rw [holdableInside, depth_nested, depthLimit]
    simp
  refine ⟨spelt, report?_of_spoilt (by simp) spelt (forall₂_form_toJson [field]) ?_⟩
  exact ⟨("more", nested 199), List.mem_singleton_self _, deep⟩

end DetectedField

end TestPlanner
