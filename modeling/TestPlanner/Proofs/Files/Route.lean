import TestPlanner.Files.Workspace
import TestPlanner.Proofs.Files.Path
import Mathlib.Tactic.Tauto

/-!
# The way of a path

A path leads from name to name through a workspace. Where it leads (`placeOf`) and the places on the
way (`way`) depend only on the path and on the place it starts from. The tree decides whether the
path can be followed: all places before the last name have to be directories
(`follow_concat_eq_ok_iff`, `locate_eq_ok_iff`).

A plain name behind a path leads one place further, into the directory that the path leads to
(`placeOf_join`, `mem_way_join`).
-/

set_option autoImplicit false

namespace TestPlanner.Files

/-! ## Routes -/

/-- The places on the way that names lead from a place, with both ends. -/
def route (p : Place) : List String → List Place
  | [] => [p]
  | name :: names => p :: route (placeFrom p [name]) names

theorem placeFrom_cons (p : Place) (name : String) (names : List String) :
    placeFrom p (name :: names) = placeFrom (placeFrom p [name]) names := by
  simp only [placeFrom]
  split
  · rfl
  · split <;> rfl

theorem placeFrom_append (p : Place) (names more : List String) :
    placeFrom p (names ++ more) = placeFrom (placeFrom p names) more := by
  induction names generalizing p with
  | nil => rfl
  | cons name names ih =>
    rw [List.cons_append, placeFrom_cons, ih, ← placeFrom_cons]

theorem placeFrom_of_not_leads {name : String} (idle : leads name = false) (p : Place) :
    placeFrom p [name] = p := by
  simp only [leads, Bool.not_eq_false'] at idle
  simp only [placeFrom, idle, if_true]

theorem self_mem_route (p : Place) (names : List String) : p ∈ route p names := by
  cases names <;> exact List.mem_cons_self

theorem placeFrom_mem_route (p : Place) (names : List String) :
    placeFrom p names ∈ route p names := by
  induction names generalizing p with
  | nil => exact List.mem_cons_self
  | cons name names ih =>
    rw [placeFrom_cons]
    exact List.mem_cons_of_mem p (ih _)

theorem mem_route_append {p q : Place} (names more : List String) :
    q ∈ route p (names ++ more) ↔ q ∈ route p names ∨ q ∈ route (placeFrom p names) more := by
  induction names generalizing p with
  | nil =>
    simp only [List.nil_append, route, placeFrom, List.mem_singleton]
    refine ⟨.inr, fun member => member.elim ?_ id⟩
    rintro rfl
    exact self_mem_route q more
  | cons name names ih =>
    rw [List.cons_append, route, route, List.mem_cons, List.mem_cons, ih,
      placeFrom_cons p name names, or_assoc]

/-- Without a double dot the way never turns back: every place on it is above its end. -/
theorem prefix_of_mem_route {p d : Place} {names : List String} (forward : ".." ∉ names)
    (member : d ∈ route p names) : d <+: placeFrom p names := by
  induction names generalizing p d with
  | nil =>
    rw [route, List.mem_singleton] at member
    rw [member]
    exact List.prefix_refl _
  | cons name names ih =>
    rw [List.mem_cons, not_or] at forward
    rw [placeFrom_cons]
    have on : p <+: placeFrom p [name] := by
      have other : (name == "..") = false := beq_false_of_ne (Ne.symm forward.1)
      simp only [placeFrom, other, Bool.false_eq_true, if_false]
      split
      · exact List.prefix_refl p
      · exact List.prefix_append p [name]
    rcases List.mem_cons.mp member with rfl | later
    · exact on.trans (ih forward.2 (self_mem_route _ _))
    · exact ih forward.2 later

/-- Names that lead nowhere do not count, neither for the end of the way nor for the way. -/
theorem placeFrom_filter (p : Place) (names : List String) :
    placeFrom p (names.filter leads) = placeFrom p names := by
  induction names generalizing p with
  | nil => rfl
  | cons name names ih =>
    by_cases useful : leads name = true
    · rw [List.filter_cons_of_pos useful, placeFrom_cons, ih, ← placeFrom_cons]
    · rw [List.filter_cons_of_neg useful, ih, placeFrom_cons p,
        placeFrom_of_not_leads (Bool.eq_false_iff.mpr useful)]

theorem mem_route_filter {p q : Place} (names : List String) :
    q ∈ route p (names.filter leads) ↔ q ∈ route p names := by
  induction names generalizing p with
  | nil => rfl
  | cons name names ih =>
    by_cases useful : leads name = true
    · rw [List.filter_cons_of_pos useful, route, route, List.mem_cons, List.mem_cons, ih]
    · rw [List.filter_cons_of_neg useful, ih, route, List.mem_cons,
        placeFrom_of_not_leads (Bool.eq_false_iff.mpr useful)]
      refine ⟨.inr, fun member => member.elim ?_ id⟩
      rintro rfl
      exact self_mem_route q names

theorem Plain.placeFrom_eq {name : String} (plain : Plain name) (p : Place) :
    placeFrom p [name] = p ++ [name] := by
  have useful := plain.2.1
  simp only [leads, Bool.not_eq_true'] at useful
  have other : (name == "..") = false := beq_false_of_ne plain.2.2
  simp only [placeFrom, useful, other, Bool.false_eq_true, if_false]

/-! ## Following names -/

variable {t : Tree} {p q : Place}

/-- A name can be followed from a directory if it is not too long. -/
theorem follow_cons_eq_ok_iff (name : String) (names : List String) :
    follow t p (name :: names) = .ok q ↔ t.get? p = some .directory ∧
      name.utf8ByteSize ≤ nameLimit ∧ follow t (placeFrom p [name]) names = .ok q := by
  rw [follow]
  cases at_ : t.get? p with
  | none => simp
  | some e =>
    cases e with
    | file content => simp
    | directory =>
      simp only [placeFrom, true_and]
      by_cases idle : (name == "" || name == ".") = true
      · have short : name.utf8ByteSize ≤ nameLimit := by
          rcases Bool.or_eq_true _ _ |>.mp idle with same | same <;>
            (rw [eq_of_beq same]; decide)
        simp only [idle, if_true, short, true_and]
      · simp only [idle, Bool.false_eq_true, if_false]
        by_cases up : (name == "..") = true
        · have short : name.utf8ByteSize ≤ nameLimit := by
            rw [eq_of_beq up]
            decide
          simp only [up, if_true, short, true_and]
        · simp only [up, Bool.false_eq_true, if_false]
          by_cases long : name.utf8ByteSize > nameLimit
          · simp only [long, if_true, reduceCtorEq, false_iff, not_and]
            intro short
            exact absurd short (Nat.not_le.mpr long)
          · simp only [long, if_false, Nat.not_lt.mp long, true_and]

/-- **Names can be followed if all places before the last one are directories.** -/
theorem follow_concat_eq_ok_iff (names : List String) (last : String) :
    follow t p (names ++ [last]) = .ok q ↔ (∀ d ∈ route p names, t.get? d = some .directory) ∧
      (∀ name ∈ names ++ [last], name.utf8ByteSize ≤ nameLimit) ∧
      q = placeFrom p (names ++ [last]) := by
  induction names generalizing p with
  | nil =>
    rw [List.nil_append, follow_cons_eq_ok_iff]
    simp only [follow, route, List.mem_singleton, forall_eq, Except.ok.injEq, @eq_comm _ q]
  | cons name names ih =>
    rw [List.cons_append, follow_cons_eq_ok_iff, ih, placeFrom_cons p name (names ++ [last])]
    simp only [route, List.forall_mem_cons]
    tauto

/-! ## The way of a path in a workspace -/

namespace Workspace

/-- Where a path starts. -/
def start (w : Workspace) (path : String) : Place :=
  if isAbsolute path then [] else w.directory

/-- The places on the way of a path, whatever there is, with both ends. -/
def way (w : Workspace) (path : String) : List Place := route (w.start path) (steps path)

/-- A path that a system can read: no null character, not empty, not too long, and no name too
long. -/
structure Readable (path : String) : Prop where
  noNull : '\x00' ∉ path.toList
  nonempty : path ≠ ""
  short : path.utf8ByteSize ≤ pathLimit
  names : ∀ name ∈ components path, name.utf8ByteSize ≤ nameLimit

variable {w w' : Workspace} {path : String}

theorem placeOf_eq (w : Workspace) (path : String) :
    w.placeOf path = placeFrom (w.start path) (steps path) :=
  (placeFrom_filter _ _).symm

theorem placeOf_mem_way (w : Workspace) (path : String) : w.placeOf path ∈ w.way path := by
  rw [placeOf_eq]
  exact placeFrom_mem_route _ _

/-- A path without double dots passes nothing but what is above its end. -/
theorem prefix_of_mem_way (forward : ".." ∉ components path) {d : Place} (member : d ∈ w.way path) :
    d <+: w.placeOf path := by
  rw [placeOf_eq]
  exact prefix_of_mem_route (fun dots => forward (List.mem_of_mem_filter dots)) member

theorem placeOf_congr (same : w'.directory = w.directory) (path : String) :
    w'.placeOf path = w.placeOf path := by
  rw [placeOf, placeOf, same]

theorem way_congr (same : w'.directory = w.directory) (path : String) :
    w'.way path = w.way path := by
  rw [way, way, start, start, same]

/-- **A path is located if it is readable and all places before its last name are directories.** -/
theorem locate_eq_ok_iff {names : List String} {last : String}
    (split : components path = names ++ [last]) {q : Place} :
    w.locate path = .ok q ↔ Readable path ∧
      (∀ d ∈ route (w.start path) (names.filter leads), w.tree.get? d = some .directory) ∧
      q = w.placeOf path := by
  have followed := follow_concat_eq_ok_iff (t := w.tree) (p := w.start path) (q := q) names last
  simp only [mem_route_filter]
  rw [← split] at followed
  rw [locate, ← start.eq_1]
  by_cases null : '\x00' ∈ path.toList
  · simp only [List.contains_iff_mem.mpr null, if_true, reduceCtorEq, false_iff, not_and]
    exact fun readable => absurd null readable.noNull
  · have free : path.toList.contains '\x00' = false := by simpa using null
    simp only [free, Bool.false_eq_true, if_false]
    by_cases empty : path.isEmpty = true
    · simp only [empty, if_true, reduceCtorEq, false_iff, not_and]
      exact fun readable => absurd (String.isEmpty_iff.mp empty) readable.nonempty
    · simp only [empty, Bool.false_eq_true, if_false]
      by_cases long : path.utf8ByteSize > pathLimit
      · simp only [long, if_true, reduceCtorEq, false_iff, not_and]
        exact fun readable => absurd readable.short (Nat.not_le.mpr long)
      · simp only [long, if_false, followed]
        constructor
        · rintro ⟨directories, short, place⟩
          exact ⟨⟨null, mt String.isEmpty_iff.mpr empty, Nat.not_lt.mp long, short⟩, directories,
            place⟩
        · rintro ⟨readable, directories, place⟩
          exact ⟨directories, readable.names, place⟩

/-- The path before a slash of a readable path is readable, unless it is empty. -/
theorem Readable.of_append_slash {base more : String} (readable : Readable (base ++ "/" ++ more))
    (nonempty : base ≠ "") : Readable base := by
  refine ⟨fun null => readable.noNull ?_, nonempty, ?_, fun name member => readable.names name ?_⟩
  · rw [String.toList_append, String.toList_append]
    exact List.mem_append_left _ (List.mem_append_left _ null)
  · have short := readable.short
    rw [String.utf8ByteSize_append, String.utf8ByteSize_append] at short
    omega
  · rw [components_append_slash]
    exact List.mem_append_left _ member

/-! ### Into directories -/

/-- A readable path has a readable first part. -/
theorem Readable.of_join {base : String} (readable : Readable (join base path))
    (relative : isAbsolute path = false) (nonempty : base ≠ "") : Readable base := by
  obtain ⟨rest, form⟩ := exists_join_eq_append base relative
  obtain ⟨names, joined, own⟩ := components_join base relative
  refine ⟨?_, nonempty, ?_, ?_⟩
  · intro null
    refine readable.noNull ?_
    rw [form, String.toList_append]
    exact List.mem_append_left _ null
  · have short := readable.short
    rw [form, String.utf8ByteSize_append] at short
    omega
  · have short := readable.names
    rw [joined] at short
    intro name member
    rcases own with own | own
    · exact short name (List.mem_append_left _ (own ▸ member))
    · rw [own, List.mem_append, List.mem_singleton] at member
      rcases member with old | rfl
      · exact short name (List.mem_append_left _ old)
      · decide

variable {name : String} (plain : Plain name)

include plain

theorem start_join (w : Workspace) (base : String) : w.start (join base name) = w.start base := by
  rw [start, start, isAbsolute_join base plain.relative]

/-- A plain name leads from where the path before it leads into it. -/
theorem placeOf_join (w : Workspace) (base : String) :
    w.placeOf (join base name) = w.placeOf base ++ [name] := by
  rw [placeOf_eq, placeOf_eq, start_join plain, steps_join base plain.relative, plain.steps_eq,
    placeFrom_append, plain.placeFrom_eq]

theorem mem_way_join (w : Workspace) (base : String) (d : Place) :
    d ∈ w.way (join base name) ↔ d ∈ w.way base ∨ d = w.placeOf base ++ [name] := by
  rw [way, way, start_join plain, steps_join base plain.relative, plain.steps_eq,
    mem_route_append, ← placeOf_eq, route, route, plain.placeFrom_eq, List.mem_cons,
    List.mem_singleton]
  refine ⟨?_, fun member => member.imp_right .inr⟩
  rintro (old | rfl | new)
  · exact .inl old
  · exact .inl (placeOf_mem_way w base)
  · exact .inr new

/-- **A plain name can be followed from where a path leads if the whole way there is of
directories.** -/
theorem locate_join_eq_ok_iff (base : String) {q : Place} :
    w.locate (join base name) = .ok q ↔ Readable (join base name) ∧
      (∀ d ∈ w.way base, w.tree.get? d = some .directory) ∧ q = w.placeOf base ++ [name] := by
  obtain ⟨names, joined, own⟩ := components_join base plain.relative
  rw [plain.components_eq] at joined
  rw [locate_eq_ok_iff joined, start_join plain, filter_leads_of_components own,
    placeOf_join plain, way]

end Workspace

end TestPlanner.Files
