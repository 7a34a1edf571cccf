import TestPlanner.Files.Path
import Mathlib.Data.List.Basic
import Mathlib.Data.List.Infix
import Mathlib.Data.List.TakeWhile

/-!
# Paths by their steps

Empty names and single dots lead nowhere, so what counts in a path are its other names, its `steps`.
Joining two paths puts their steps one after the other (`steps_join`), and the path above a path has
the first of its steps (`steps_of_parent?`).

A plain name leads from a directory into it. The path above a path that ends in two plain names is
that path without the last one (`parent?_join`).
-/

set_option autoImplicit false

namespace TestPlanner.Files

/-! ## Names -/

/-- Whether a name leads anywhere. -/
def leads (name : String) : Bool := !(name == "" || name == ".")

/-- The names of a path that lead somewhere. -/
def steps (path : String) : List String := (components path).filter leads

/-! ## Joining -/

/-- The components of two paths with a slash between them. -/
theorem components_append_slash (u v : String) :
    components (u ++ "/" ++ v) = components u ++ components v := by
  have slash : "/".toList = ['/'] := rfl
  rw [components, String.toList_append, String.toList_append, slash, List.append_assoc,
    List.singleton_append, List.splitOnP_append_cons _ _ rfl, List.map_append]
  rfl

theorem components_empty : components "" = [""] := by decide

/-- A relative path is joined to the end of a path, with a slash unless there is one. -/
theorem join_cases (base : String) {path : String} (relative : isAbsolute path = false) :
    (base = "" ∧ join base path = path) ∨
    (∃ front, base = front ++ "/" ∧ join base path = front ++ "/" ++ path) ∨
    (base ≠ "" ∧ base.toList.getLast? ≠ some '/' ∧ join base path = base ++ "/" ++ path) := by
  unfold join
  simp only [relative, Bool.false_eq_true, if_false]
  by_cases empty : base = ""
  · refine .inl ⟨empty, ?_⟩
    rw [empty, if_pos (by decide), String.empty_append]
  · have filled : base.isEmpty = false := by simpa using empty
    by_cases closed : base.toList.getLast? = some '/'
    · obtain ⟨front, split⟩ := List.getLast?_eq_some_iff.mp closed
      have form : base = String.ofList front ++ "/" := by
        rw [← String.toList_inj, split, String.toList_append, String.toList_ofList]
        rfl
      refine .inr (.inl ⟨_, form, ?_⟩)
      rw [if_pos (by simp only [closed, beq_self_eq_true, Bool.or_true]), ← form]
    · refine .inr (.inr ⟨empty, closed, ?_⟩)
      rw [if_neg (by simp [filled, closed])]

/-- The components of a joined path: those of its parts, but for an empty one where they meet. -/
theorem components_join (base : String) {path : String} (relative : isAbsolute path = false) :
    ∃ names, components (join base path) = names ++ components path ∧
      (components base = names ∨ components base = names ++ [""]) := by
  obtain ⟨rfl, joined⟩ | ⟨front, rfl, joined⟩ | ⟨_, _, joined⟩ := join_cases base relative
  · exact ⟨[], by rw [joined, List.nil_append], .inr components_empty⟩
  · have ends : components (front ++ "/") = components front ++ [""] := by
      rw [← components_empty, ← components_append_slash, String.append_empty]
    exact ⟨components front, by rw [joined, components_append_slash], .inr ends⟩
  · exact ⟨components base, by rw [joined, components_append_slash], .inl rfl⟩

theorem filter_leads_of_components {path : String} {names : List String}
    (split : components path = names ∨ components path = names ++ [""]) :
    names.filter leads = steps path := by
  rcases split with split | split
  · rw [steps, split]
  · have idle : [""].filter leads = [] := by decide
    rw [steps, split, List.filter_append, idle, List.append_nil]

/-- **Joining paths puts their steps one after the other.** -/
theorem steps_join (base : String) {path : String} (relative : isAbsolute path = false) :
    steps (join base path) = steps base ++ steps path := by
  obtain ⟨names, joined, own⟩ := components_join base relative
  rw [steps, joined, List.filter_append, filter_leads_of_components own]
  rfl

/-- A joined path starts where its first part does. -/
theorem isAbsolute_join (base : String) {path : String} (relative : isAbsolute path = false) :
    isAbsolute (join base path) = isAbsolute base := by
  obtain ⟨rfl, joined⟩ | ⟨front, rfl, joined⟩ | ⟨filled, _, joined⟩ := join_cases base relative
  · rw [joined, relative]
    decide
  · rw [joined, isAbsolute, isAbsolute, String.toList_append, String.toList_append]
    cases front.toList <;> rfl
  · rw [joined, isAbsolute, isAbsolute, String.toList_append, String.toList_append]
    cases chars : base.toList with
    | nil => exact absurd (String.toList_eq_nil_iff.mp chars) filled
    | cons c rest => rfl

/-- A joined path holds its first part. -/
theorem exists_join_eq_append (base : String) {path : String} (relative : isAbsolute path = false) :
    ∃ rest, join base path = base ++ rest := by
  obtain ⟨rfl, joined⟩ | ⟨front, rfl, joined⟩ | ⟨_, _, joined⟩ := join_cases base relative
  · exact ⟨path, by rw [joined, String.empty_append]⟩
  · exact ⟨path, joined⟩
  · exact ⟨"/" ++ path, by rw [joined, String.append_assoc]⟩

/-- Relative paths are all joined to the same text. -/
theorem exists_join_front (base : String) :
    ∃ front, ∀ path, isAbsolute path = false → join base path = front ++ path := by
  refine ⟨if base.isEmpty || base.toList.getLast? == some '/' then base else base ++ "/",
    fun path relative => ?_⟩
  unfold join
  simp only [relative, Bool.false_eq_true, if_false]
  split <;> rfl

/-! ## Plain names -/

/-- A name that leads from a directory into it. -/
def Plain (name : String) : Prop :=
  '/' ∉ name.toList ∧ leads name = true ∧ name ≠ ".."
  deriving Decidable

namespace Plain

variable {name : String} (plain : Plain name)

include plain

theorem ne_empty : name ≠ "" := by
  rintro rfl
  exact absurd plain.2.1 (by decide)

theorem relative : isAbsolute name = false := by
  rw [isAbsolute]
  cases chars : name.toList with
  | nil => rfl
  | cons c rest =>
    have other : c ≠ '/' := by
      rintro rfl
      exact plain.1 (chars ▸ List.mem_cons_self)
    simpa using other

theorem components_eq : components name = [name] := by
  rw [components, List.splitOnP_eq_singleton, List.map_singleton, String.ofList_toList]
  intro c member
  refine beq_false_of_ne ?_
  rintro rfl
  exact plain.1 member

theorem steps_eq : steps name = [name] := by
  rw [steps, plain.components_eq, List.filter_cons_of_pos plain.2.1, List.filter_nil]

end Plain

/-! ## The path above a path -/

/-- What is dropped from the end of a path is separated from the rest by a slash. -/
theorem dropTrailing_cases (s : List Char) :
    (dropTrailing s = s ∧ s.head? ≠ some '/') ∨ ∃ back, s = back ++ '/' :: dropTrailing s := by
  induction s using dropTrailing.induct with
  | case1 s ih =>
    rw [dropTrailing]
    rcases ih with ⟨same, _⟩ | ⟨back, split⟩
    · exact .inr ⟨[], by rw [same, List.nil_append]⟩
    · exact .inr ⟨'/' :: back, by rw [List.cons_append, ← split]⟩
  | case2 s ih =>
    rw [dropTrailing]
    rcases ih with ⟨_, other⟩ | ⟨back, split⟩
    · exact absurd rfl other
    · exact .inr ⟨'.' :: back, by rw [List.cons_append, ← split]⟩
  | case3 s slash dotted =>
    refine .inl ⟨?_, ?_⟩
    · rw [dropTrailing]
      · exact slash
      · exact dotted
    · intro head
      obtain ⟨rest, split⟩ := List.head?_eq_some_iff.mp head
      exact slash rest split

/-- The path above a path is empty, or what stands before one of its slashes; before the first one
it is the root. -/
theorem parent?_cases {path parent : String} (above : parent? path = some parent) :
    (parent = "" ∧ isAbsolute path = false) ∨
    (∃ more, path = parent ++ "/" ++ more ∧ parent ≠ "") ∨
    (parent = "/" ∧ isAbsolute path = true) := by
  unfold parent? at above
  dsimp only at above
  have outer := dropTrailing_cases path.toList.reverse
  generalize dropTrailing path.toList.reverse = s at above outer
  -- the path is `s` backwards, and what was dropped behind it
  have whole : ∃ back, path.toList = s.reverse ++ back := by
    rcases outer with ⟨same, _⟩ | ⟨back, split⟩
    · exact ⟨[], by rw [same, List.reverse_reverse, List.append_nil]⟩
    · refine ⟨'/' :: back.reverse, ?_⟩
      rw [← List.reverse_reverse path.toList, split]
      simp
  obtain ⟨back, whole⟩ := whole
  split at above
  next => cases above
  next filled =>
    have cut := List.takeWhile_append_dropWhile (p := (· != '/')) (l := s)
    have noSlash : ∀ c ∈ s.takeWhile (· != '/'), c ≠ '/' :=
      fun c member => bne_iff_ne.mp (List.mem_takeWhile_imp (p := (· != '/')) member)
    generalize s.takeWhile (· != '/') = name at cut noSlash
    cases rest : s.dropWhile (· != '/') with
    | nil =>
      have own : dropTrailing [] = [] := by rw [dropTrailing] <;> simp
      simp only [rest, own, List.isEmpty_nil, Bool.not_true, Bool.and_false, Bool.false_eq_true,
        if_false, List.reverse_nil, Option.some.injEq] at above
      refine .inl ⟨above.symm, ?_⟩
      rw [rest, List.append_nil] at cut
      subst cut
      rw [isAbsolute, whole]
      cases backwards : name.reverse with
      | nil =>
        rw [List.reverse_eq_nil_iff] at backwards
        exact absurd (by rw [backwards]; rfl) filled
      | cons c front =>
        have other := noSlash c (by rw [← List.mem_reverse, backwards]; exact List.mem_cons_self)
        simpa using other
    | cons c t =>
      obtain rfl : c = '/' := by
        have := List.head?_dropWhile_not (· != '/') s
        rw [rest] at this
        simpa using this
      have inner := dropTrailing_cases ('/' :: t)
      rw [rest] at cut above
      generalize dropTrailing ('/' :: t) = u at above inner
      rcases inner with ⟨_, other⟩ | ⟨dropped, split⟩
      · exact absurd rfl other
      · have form : path.toList = u.reverse ++ '/' ::
            (dropped.reverse ++ name.reverse ++ back) := by
          rw [whole, ← cut, split]
          simp
        by_cases top : u = []
        · subst top
          simp only [List.isEmpty_nil, List.isEmpty_cons, Bool.not_false, Bool.and_true, if_true,
            Option.some.injEq] at above
          refine .inr (.inr ⟨above.symm, ?_⟩)
          rw [isAbsolute, form]
          rfl
        · have some : u.isEmpty = false := by simpa using top
          simp only [some, Bool.false_and, Bool.false_eq_true, if_false, Option.some.injEq] at above
          refine .inr (.inl ⟨String.ofList
            (dropped.reverse ++ name.reverse ++ back), ?_, ?_⟩)
          · rw [← String.toList_inj, form, ← above]
            simp
          · rw [← above]
            simpa using top

/-- **The path above a path** starts where that does, and has the first of its steps. -/
theorem steps_of_parent? {path parent : String} (above : parent? path = some parent) :
    isAbsolute parent = isAbsolute path ∧ steps parent <+: steps path := by
  have empty : steps "" = [] := by decide
  have slash : steps "/" = [] := by decide
  rcases parent?_cases above with ⟨rfl, relative⟩ | ⟨more, rfl, filled⟩ | ⟨rfl, absolute⟩
  · rw [relative, empty]
    exact ⟨by decide, List.nil_prefix⟩
  · refine ⟨?_, ?_⟩
    · rw [isAbsolute, isAbsolute, String.toList_append, String.toList_append]
      cases chars : parent.toList with
      | nil => exact absurd (String.toList_eq_nil_iff.mp chars) filled
      | cons c rest => rfl
    · rw [steps, steps, components_append_slash, List.filter_append]
      exact List.prefix_append _ _
  · rw [absolute, slash]
    exact ⟨by decide, List.nil_prefix⟩

/-- A plain name at the end of a path is not dropped. -/
theorem Plain.dropTrailing_eq {name : String} (plain : Plain name) (s : List Char) :
    dropTrailing (name.toList.reverse ++ s) = name.toList.reverse ++ s := by
  have noSlash : ∀ c ∈ name.toList.reverse, c ≠ '/' := by
    rintro c member rfl
    exact plain.1 (List.mem_reverse.mp member)
  have filled : name.toList.reverse ≠ [] := by simpa using plain.ne_empty
  have notDot : name.toList.reverse ≠ ['.'] := by
    intro dot
    have single : name = "." := by
      rw [← String.toList_inj, ← List.reverse_reverse name.toList, dot]
      rfl
    exact absurd plain.2.1 (by rw [single]; decide)
  generalize name.toList.reverse = back at noSlash filled notDot
  cases back with
  | nil => exact absurd rfl filled
  | cons c more =>
    have first : c ≠ '/' := noSlash c List.mem_cons_self
    cases more with
    | nil =>
      rw [List.singleton_append, dropTrailing]
      · rintro rest same
        cases same
        exact first rfl
      · rintro rest same
        cases same
        exact notDot rfl
    | cons d more =>
      rw [List.cons_append, List.cons_append, dropTrailing]
      · rintro rest same
        cases same
        exact first rfl
      · rintro rest same
        cases same
        exact noSlash '/' (List.mem_cons_of_mem _ List.mem_cons_self) rfl

theorem Plain.join_ne_empty {name : String} (plain : Plain name) (base : String) :
    join base name ≠ "" := by
  obtain ⟨front, joins⟩ := exists_join_front base
  rw [joins name plain.relative, Ne, String.append_eq_empty_iff, not_and]
  exact fun _ => plain.ne_empty

/-- A plain name is joined behind another one with a slash. -/
theorem Plain.join_eq {first last : String} (plain : Plain first) (plain' : Plain last)
    (base : String) : join (join base first) last = join base first ++ "/" ++ last := by
  obtain ⟨front, joins⟩ := exists_join_front base
  have filled : first.toList ≠ [] := mt String.toList_eq_nil_iff.mp plain.ne_empty
  have body : (join base first).toList = front.toList ++ first.toList := by
    rw [joins first plain.relative, String.toList_append]
  obtain ⟨none, _⟩ | ⟨path, slashed, _⟩ | ⟨_, _, joined⟩ :=
    join_cases (join base first) plain'.relative
  · rw [← String.toList_inj, body] at none
    exact absurd (List.append_eq_nil_iff.mp none).2 filled
  · rw [← String.toList_inj, body, String.toList_append] at slashed
    have last : first.toList.getLast? = some '/' := by
      rw [← List.getLast?_append_of_ne_nil front.toList filled, slashed]
      exact List.getLast?_concat
    exact absurd (List.mem_of_getLast? last) plain.1
  · exact joined

/-- Plain names can be joined in either order. -/
theorem join_join {first last : String} (plain : Plain first) (plain' : Plain last)
    (base : String) : join base (join first last) = join (join base first) last := by
  have alone : join "" first = first := by
    rw [join, if_neg (by rw [plain.relative]; decide), if_pos (by decide), String.empty_append]
  have pair : join first last = first ++ "/" ++ last := by
    have joined := plain.join_eq plain' ""
    rwa [alone] at joined
  have relative : isAbsolute (join first last) = false := by
    rw [isAbsolute_join first plain'.relative, plain.relative]
  obtain ⟨front, joins⟩ := exists_join_front base
  rw [plain.join_eq plain', joins _ relative, joins _ plain.relative, pair, String.append_assoc,
    String.append_assoc, String.append_assoc]

/-- **The path above two plain names** ends in the first of them. -/
theorem parent?_join (base : String) {first last : String} (plain : Plain first)
    (plain' : Plain last) :
    parent? (join (join base first) last) = some (join base first) := by
  obtain ⟨front, joins⟩ := exists_join_front base
  have body : (join base first).toList = front.toList ++ first.toList := by
    rw [joins first plain.relative, String.toList_append]
  have filled : first.toList ≠ [] := mt String.toList_eq_nil_iff.mp plain.ne_empty
  have backwards : (join (join base first) last).toList.reverse =
      last.toList.reverse ++ '/' :: (first.toList.reverse ++ front.toList.reverse) := by
    rw [plain.join_eq plain', String.toList_append, String.toList_append, body]
    simp
  have noSlash : ∀ c ∈ last.toList.reverse, (c != '/') = true := by
    intro c member
    refine bne_iff_ne.mpr ?_
    rintro rfl
    exact plain'.1 (List.mem_reverse.mp member)
  have kept : dropTrailing ('/' :: (first.toList.reverse ++ front.toList.reverse)) =
      first.toList.reverse ++ front.toList.reverse := by
    rw [dropTrailing, plain.dropTrailing_eq]
  unfold parent?
  dsimp only
  rw [backwards, plain'.dropTrailing_eq, List.dropWhile_append_of_pos noSlash,
    List.dropWhile_cons_of_neg (by simp), kept]
  rw [if_neg (by simp), if_neg (by simp [filled])]
  congr 1
  rw [← String.toList_inj, body]
  simp

end TestPlanner.Files
