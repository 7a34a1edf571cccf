import Mathlib.Data.List.Nodup
import TestPlanner.Json.Record
import TestPlanner.Proofs.Json.Layout

/-!
# Reading back records

A record is written as an object with one member for every field that has a value. If no two fields
have the same name, the reader finds for every name the value of its field, or none
(`fields?_membersOf`). What is left is one lemma for each way in which a field is read: a required
one, an optional one, whether it is left out or null, a list, and a choice.
-/

set_option autoImplicit false

namespace TestPlanner.Json

universe u

/-! ## Fields -/

/-- The members of fields, of which some are left out. -/
def membersOf (fields : List (String × Option Json)) : List (String × Json) :=
  fields.filterMap fun f => f.2.map fun v => (f.1, v)

theorem membersOf_nil : membersOf [] = [] := rfl

theorem membersOf_cons (name : String) (value : Option Json)
    (fields : List (String × Option Json)) :
    membersOf ((name, value) :: fields) =
      (value.map fun v => (name, v)).toList ++ membersOf fields := by
  cases value <;> rfl

theorem membersOf_some (name : String) (v : Json) (fields : List (String × Option Json)) :
    membersOf ((name, some v) :: fields) = (name, v) :: membersOf fields :=
  rfl

theorem membersOf_optional {α : Type u} (name : String) (write : α → Json) (o : Option α)
    (fields : List (String × Option Json)) :
    membersOf ((name, o.map write) :: fields) = memberIfSome name write o ++ membersOf fields := by
  cases o <;> rfl

/-- The members of a name that no field has. -/
theorem filter_membersOf_of_notMem {name : String} {fields : List (String × Option Json)}
    (other : name ∉ fields.map Prod.fst) :
    (membersOf fields).filter (fun m => m.1 == name) = [] := by
  rw [List.filter_eq_nil_iff]
  intro m member same
  obtain ⟨f, listed, found⟩ := List.mem_filterMap.mp member
  obtain ⟨v, _, rfl⟩ := Option.map_eq_some_iff.mp found
  exact other (List.mem_map.mpr ⟨f, listed, beq_iff_eq.mp same⟩)

/-- **The members of a field's name are its own value, if it has one.** -/
theorem filter_membersOf {fields : List (String × Option Json)}
    (distinct : (fields.map Prod.fst).Nodup) {f : String × Option Json} (listed : f ∈ fields) :
    (membersOf fields).filter (fun m => m.1 == f.1) = (f.2.map fun v => (f.1, v)).toList := by
  induction fields with
  | nil => exact absurd listed List.not_mem_nil
  | cons g fields ih =>
    obtain ⟨name, value⟩ := g
    rw [List.map_cons, List.nodup_cons] at distinct
    obtain ⟨fresh, distinct⟩ := distinct
    rw [membersOf_cons, List.filter_append]
    rcases List.mem_cons.mp listed with rfl | later
    · rw [filter_membersOf_of_notMem fresh, List.append_nil]
      cases value with
      | none => rfl
      | some v => exact List.filter_eq_self.mpr (by simp)
    · have other : name ≠ f.1 := by
        rintro rfl
        exact fresh (List.mem_map.mpr ⟨f, later, rfl⟩)
      rw [ih distinct later]
      cases value with
      | none => rfl
      | some v =>
        have dropped : [(name, v)].filter (fun m => m.1 == f.1) = [] :=
          List.filter_eq_nil_iff.mpr (by simpa using other)
        rw [Option.map_some, Option.toList_some, dropped, List.nil_append]

theorem soleMember?_membersOf {fields : List (String × Option Json)}
    (distinct : (fields.map Prod.fst).Nodup) {f : String × Option Json} (listed : f ∈ fields) :
    soleMember? f.1 (membersOf fields) = some f.2 := by
  rw [soleMember?, filter_membersOf distinct listed]
  cases f.2 <;> rfl

/-- What is read from every item is read from a list of them. -/
theorem mapM_map_eq_some {α β γ : Type u} {read : β → Option γ} {write : α → β} {value : α → γ}
    {l : List α} (back : ∀ a ∈ l, read (write a) = some (value a)) :
    (l.map write).mapM read = some (l.map value) := by
  induction l with
  | nil => rfl
  | cons a l ih =>
    rw [List.map_cons, List.mapM_cons, back a List.mem_cons_self,
      ih fun b member => back b (List.mem_cons_of_mem a member)]
    rfl

/-- **Every field of a record is read back, also one that is left out.** -/
theorem fields?_membersOf {names : List String} {fields : List (String × Option Json)}
    (named : fields.map Prod.fst = names) (distinct : names.Nodup) :
    fields? names (.object (membersOf fields)) = some (fields.map Prod.snd) := by
  subst named
  exact mapM_map_eq_some fun _ listed => soleMember?_membersOf distinct listed

/-! ## Ways to read a field -/

section Reading

variable {α : Type} {read : Json → Option α} {write : α → Json}

/-- An optional field that is left out when it has no value. -/
theorem optional_map {o : Option α} (back : ∀ a ∈ o, read (write a) = some a)
    (visible : ∀ a, write a ≠ .null) : optional read (o.map write) = some o := by
  cases o with
  | none => rfl
  | some a =>
    rw [Option.map_some, optional, back a rfl, Option.map_some]
    exact visible a

/-- An optional field that is null when it has no value. -/
theorem optional_orNull {o : Option α} (back : ∀ a ∈ o, read (write a) = some a)
    (visible : ∀ a, write a ≠ .null) : optional read (some (orNull write o)) = some o := by
  cases o with
  | none => rfl
  | some a => exact optional_map back visible

theorem list?_map {l : List α} (back : ∀ a ∈ l, read (write a) = some a) :
    list? read (.array (l.map write)) = some l := by
  rw [list?, mapM_map_eq_some back, List.map_id']

/-- A list that is left out when it is empty. -/
theorem defaulted_list? {l : List α} (back : ∀ a ∈ l, read (write a) = some a) :
    defaulted [] (list? read) (if l.isEmpty then none else some (.array (l.map write))) =
      some l := by
  cases l with
  | nil => rfl
  | cons a l => exact list?_map back

end Reading

/-- An optional text that is left out when there is none. -/
theorem optional_string_map (o : Option String) : optional string? (o.map Json.string) = some o :=
  optional_map (fun _ _ => rfl) fun _ => nofun

/-- An optional text that is null when there is none. -/
theorem optional_string_orNull (o : Option String) :
    optional string? (some (orNull Json.string o)) = some o :=
  optional_orNull (fun _ _ => rfl) fun _ => nofun

theorem natBelow?_nat {bound n : Nat} (below : n < bound) : natBelow? bound (.nat n) = some n :=
  if_pos below

/-! ## What is written of records -/

theorem writableMembers_append (ms ns : List (String × Json)) :
    writableMembers (ms ++ ns) = (writableMembers ms && writableMembers ns) := by
  induction ms with
  | nil => rfl
  | cons m ms ih => rw [List.cons_append, writableMembers, writableMembers, ih, Bool.and_assoc]

theorem writableMembers_membersOf {fields : List (String × Option Json)}
    (written : ∀ f ∈ fields, ∀ v ∈ f.2, v.writable = true) :
    writableMembers (membersOf fields) = true := by
  induction fields with
  | nil => rfl
  | cons f fields ih =>
    obtain ⟨name, value⟩ := f
    rw [membersOf_cons, writableMembers_append, Bool.and_eq_true]
    refine ⟨?_, ih fun g listed => written g (List.mem_cons_of_mem _ listed)⟩
    cases value with
    | none => rfl
    | some v => exact Bool.and_eq_true_iff.mpr ⟨written _ List.mem_cons_self v rfl, rfl⟩

theorem writableItems_map {α : Type u} {write : α → Json} {l : List α}
    (written : ∀ a ∈ l, (write a).writable = true) : writableItems (l.map write) = true := by
  induction l with
  | nil => rfl
  | cons a l ih =>
    rw [List.map_cons, writableItems, Bool.and_eq_true]
    exact ⟨written a List.mem_cons_self,
      ih fun b member => written b (List.mem_cons_of_mem a member)⟩

end TestPlanner.Json
