import Mathlib.Data.List.Basic
import Mathlib.Data.List.Induction

/-!
# First occurrences

Locators and steps are kept in the order of their first occurrence: what comes again is passed over,
and what is new goes to the end. This is the order of `List.eraseDups`.

In a list whose keys differ, a key that occurs has one element (`exists_filter_eq_singleton`). A text
that is cut at the first occurrence of a mark is cut in one way only (`cut_inj`), and a word without
the mark occurs on one side of it or on the other (`infix_append_cons_iff_of_not_mem`).

A search finds what is first said of an element of a list (`findSome?_eq_some_iff_first`).
-/

set_option autoImplicit false

namespace TestPlanner

/-- One more element goes to the end of the first occurrences, unless it occurred before. -/
theorem eraseDups_concat {α : Type} [BEq α] [LawfulBEq α] (xs : List α) (x : α)
    [Decidable (x ∈ xs)] :
    (xs ++ [x]).eraseDups = if x ∈ xs then xs.eraseDups else xs.eraseDups ++ [x] := by
  rw [List.eraseDups_append]
  by_cases member : x ∈ xs
  · simp [List.removeAll, member]
  · simp [List.removeAll, member, List.eraseDups_cons]

/-- First occurrences hold no element twice. -/
theorem nodup_eraseDups {α : Type} [DecidableEq α] (xs : List α) : xs.eraseDups.Nodup := by
  induction xs using List.reverseRecOn with
  | nil => exact List.nodup_nil
  | append_singleton xs x ih =>
    rw [eraseDups_concat]
    split
    next => exact ih
    next new =>
      refine List.nodup_append.mpr ⟨ih, by simp, ?_⟩
      intro other member last same
      rw [List.mem_singleton] at same
      rintro rfl
      exact new (List.mem_eraseDups.mp (same ▸ member))

/-- First occurrences are told apart by an injective function. -/
theorem eraseDups_map_of_injective {α β : Type} [DecidableEq α] [DecidableEq β] {f : α → β}
    (injective : Function.Injective f) (xs : List α) :
    (xs.map f).eraseDups = xs.eraseDups.map f := by
  induction xs using List.reverseRecOn with
  | nil => rfl
  | append_singleton xs x ih =>
    rw [List.map_append, List.map_singleton, eraseDups_concat, eraseDups_concat, ih]
    simp only [List.mem_map_of_injective injective]
    split
    next => rfl
    next => rw [List.map_append, List.map_singleton]

/-- An element of a list with one more at its end is an old one or that one. -/
theorem getElem?_concat_cases {α : Type} {xs : List α} {x y : α} {i : Nat}
    (found : (xs ++ [x])[i]? = some y) : xs[i]? = some y ∨ i = xs.length ∧ y = x := by
  rw [List.getElem?_append] at found
  split at found
  next => exact .inl found
  next outside =>
    obtain ⟨last, same⟩ := List.getElem?_eq_some_iff.mp found
    rw [List.length_singleton] at last
    rw [List.getElem_singleton] at same
    exact .inr ⟨by omega, same.symm⟩

/-- In a list whose keys differ, a key that occurs has one element. -/
theorem exists_filter_eq_singleton {α β : Type} [DecidableEq β] {key : α → β} {xs : List α}
    (apart : (xs.map key).Nodup) {k : β} (member : k ∈ xs.map key) :
    ∃ x, xs.filter (fun x => key x == k) = [x] := by
  induction xs with
  | nil => cases member
  | cons x xs ih =>
    rw [List.map_cons, List.nodup_cons] at apart
    rcases List.mem_cons.mp member with rfl | later
    · refine ⟨x, ?_⟩
      rw [List.filter_cons_of_pos (by simp only [beq_self_eq_true]), List.cons.injEq,
        List.filter_eq_nil_iff]
      refine ⟨rfl, fun y listed same => apart.1 ?_⟩
      rw [← beq_iff_eq.mp same]
      exact List.mem_map_of_mem listed
    · have other : (key x == k) = false := by
        refine beq_eq_false_iff_ne.mpr ?_
        rintro rfl
        exact apart.1 later
      rw [List.filter_cons_of_neg (by simp only [other, Bool.false_eq_true, not_false_eq_true])]
      exact ih apart.2 later

/-- A search that succeeds at one element only finds what is there. -/
theorem findSome?_of_only {α β : Type} {f : α → Option β} {xs : List α} {x : α} {b : β}
    (member : x ∈ xs) (found : f x = some b) (others : ∀ y ∈ xs, y ≠ x → f y = none) :
    xs.findSome? f = some b := by
  induction xs with
  | nil => cases member
  | cons y xs ih =>
    rw [List.findSome?_cons]
    by_cases same : y = x
    · rw [same, found]
    · rw [others y List.mem_cons_self same]
      exact ih ((List.mem_cons.mp member).resolve_left (Ne.symm same))
        fun z listed => others z (List.mem_cons_of_mem y listed)

/-- A list has a first element of which something is said. -/
def First {α β : Type} (said : α → β → Prop) (xs : List α) (b : β) : Prop :=
  ∃ before x after, xs = before ++ x :: after ∧ said x b ∧ ∀ y ∈ before, ∀ c, ¬ said y c

section

variable {α β : Type} {find : α → Option β} {said : α → β → Prop} {xs : List α}

theorem eq_none_iff_not_said (each : ∀ x b, find x = some b ↔ said x b) (x : α) :
    find x = none ↔ ∀ b, ¬ said x b := by
  rw [Option.eq_none_iff_forall_ne_some]
  exact forall_congr' fun b => not_congr (each x b)

theorem findSome?_eq_some_iff_first (each : ∀ x b, find x = some b ↔ said x b) {b : β} :
    xs.findSome? find = some b ↔ First said xs b := by
  simp only [List.findSome?_eq_some_iff, First, each, eq_none_iff_not_said each]

theorem findSome?_eq_none_iff_not_said (each : ∀ x b, find x = some b ↔ said x b) :
    xs.findSome? find = none ↔ ∀ x ∈ xs, ∀ b, ¬ said x b := by
  simp only [List.findSome?_eq_none_iff, eq_none_iff_not_said each]

/-- What is said of each element alike is first said alike. -/
theorem First.imp {said' : α → β → Prop} (each : ∀ x ∈ xs, ∀ b, said x b ↔ said' x b) {b : β}
    (first : First said xs b) : First said' xs b := by
  obtain ⟨before, x, after, rfl, here, earlier⟩ := first
  refine ⟨before, x, after, rfl, (each x (by simp) b).mp here, fun y member c said => ?_⟩
  exact earlier y member c ((each y (by simp [member]) c).mpr said)

end

/-- What holds of some rest of a list holds of a first one. -/
theorem exists_first_rest {α : Type} {P : List α → Prop} {xs : List α}
    (occurs : ∃ front rest, xs = front ++ rest ∧ P rest) :
    ∃ front rest, xs = front ++ rest ∧ P rest ∧
      ∀ before between, front = before ++ between → between ≠ [] → ¬ P (between ++ rest) := by
  induction xs with
  | nil =>
    obtain ⟨front, rest, split, holds⟩ := occurs
    obtain ⟨rfl, rfl⟩ := List.append_eq_nil_iff.mp split.symm
    exact ⟨[], [], rfl, holds, fun before between empty nonempty =>
      absurd (List.append_eq_nil_iff.mp empty.symm).2 nonempty⟩
  | cons x xs ih =>
    by_cases here : P (x :: xs)
    · exact ⟨[], x :: xs, rfl, here, fun before between empty nonempty =>
        absurd (List.append_eq_nil_iff.mp empty.symm).2 nonempty⟩
    have later : ∃ front rest, xs = front ++ rest ∧ P rest := by
      obtain ⟨front, rest, split, holds⟩ := occurs
      cases front with
      | nil => exact absurd (split ▸ holds) here
      | cons y front => exact ⟨front, rest, (List.cons.inj split).2, holds⟩
    obtain ⟨front, rest, rfl, holds, first⟩ := ih later
    refine ⟨x :: front, rest, rfl, holds, fun before between split nonempty => ?_⟩
    cases before with
    | nil =>
      rw [List.nil_append] at split
      rwa [← split]
    | cons y before => exact first before between (List.cons.inj split).2 nonempty

/-- What lacks an element is not found across it. -/
theorem infix_cons_iff_of_not_mem {α : Type} {word xs : List α} {x : α} (absent : x ∉ word) :
    word <:+: x :: xs ↔ word <:+: xs := by
  rw [List.infix_cons_iff, or_iff_right_of_imp]
  rintro ⟨rest, split⟩
  cases word with
  | nil => exact List.nil_infix
  | cons y word => exact absurd (List.cons.inj split).1 fun same => absent (same ▸ List.mem_cons_self)

theorem infix_append_cons_iff_of_not_mem {α : Type} {word front xs : List α} {x : α}
    (absent : x ∉ word) : word <:+: front ++ x :: xs ↔ word <:+: front ∨ word <:+: xs := by
  rw [List.infix_append_iff, infix_cons_iff_of_not_mem absent, ← or_assoc, or_iff_left_of_imp]
  rintro ⟨ends, starts, rfl, own, begins⟩
  cases starts with
  | nil => exact .inl (by rw [List.append_nil]; exact own.isInfix)
  | cons y starts =>
    have same := (List.cons_prefix_cons.mp begins).1
    exact absurd (List.mem_append_right ends (same ▸ List.mem_cons_self)) absent

/-- A list is cut at the first occurrence of a mark in one way only. -/
theorem cut_inj {α : Type} [DecidableEq α] {mark : α} {front front' back back' : List α}
    (free : mark ∉ front) (free' : mark ∉ front')
    (same : front ++ mark :: back = front' ++ mark :: back') : front = front' ∧ back = back' := by
  have cut : ∀ xs ys : List α, mark ∉ xs → (xs ++ mark :: ys).takeWhile (· != mark) = xs := by
    intro xs ys absent
    have others : ∀ x ∈ xs, (x != mark) = true := by
      intro x member
      refine bne_iff_ne.mpr ?_
      rintro rfl
      exact absent member
    rw [List.takeWhile_append_of_pos others, List.takeWhile_cons_of_neg (by simp),
      List.append_nil]
  have fronts : front = front' := by
    rw [← cut front back free, same, cut front' back' free']
  subst fronts
  exact ⟨rfl, (List.cons.inj (List.append_cancel_left same)).2⟩

end TestPlanner
