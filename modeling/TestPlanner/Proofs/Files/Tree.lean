import TestPlanner.Files.Tree
import Mathlib.Data.List.Basic
import Mathlib.Data.List.Infix

/-!
# Trees by what is at their places

A tree is known through `get?`, and so are the changes to it: `put` sets one place (`get?_put`), and
`prune` empties one place and all below it (`get?_prune`).

In an ordinary tree whatever is there has a directory above it (`Ordinary`). Then what is above an
entry are directories, and below a place without an entry there is nothing. A tree stays ordinary if
something is put into a directory, over anything but a directory, and if a place is emptied.
-/

set_option autoImplicit false

namespace TestPlanner.Files

/-- Looking up a key after some keys were dropped. -/
theorem lookup_filter {α β : Type} [BEq α] [LawfulBEq α] (keep : α → Bool) (entries : List (α × β))
    (k : α) :
    (entries.filter fun x => keep x.1).lookup k = if keep k then entries.lookup k else none := by
  induction entries with
  | nil => simp
  | cons x entries ih =>
    obtain ⟨key, value⟩ := x
    by_cases same : k = key
    · subst same
      by_cases kept : keep k = true
      · simp [kept]
      · simp [kept, ih]
    · have other : (k == key) = false := beq_false_of_ne same
      by_cases kept : keep key = true
      · simp only [List.filter_cons, kept, if_true, List.lookup_cons, other, ih]
      · simp only [List.filter_cons, kept, Bool.false_eq_true, if_false, List.lookup_cons, other,
          ih]

namespace Tree

variable {t : Tree} {p q : Place}

/-! ## Changes by place -/

@[simp] theorem get?_nil (t : Tree) : t.get? [] = some .directory := rfl

theorem get?_of_ne_nil (t : Tree) (inner : p ≠ []) : t.get? p = t.entries.lookup p := by
  rw [get?, if_neg (by simpa using inner)]

/-- Putting sets one place. -/
theorem get?_put (t : Tree) (inner : p ≠ []) (e : Entry) (q : Place) :
    (t.put p e).get? q = if q = p then some e else t.get? q := by
  by_cases same : q = p
  · subst same
    rw [if_pos rfl, get?_of_ne_nil _ inner, put, List.lookup_cons_self]
  · rw [if_neg same]
    by_cases root : q = []
    · rw [root, get?_nil, get?_nil]
    · have kept := lookup_filter (fun k => !(k == p)) t.entries q
      have other : (q == p) = false := beq_false_of_ne same
      rw [get?_of_ne_nil _ root, get?_of_ne_nil _ root, put, List.lookup_cons, other]
      simpa only [other, Bool.not_false, if_true] using kept

/-- Pruning empties a place and all below it. -/
theorem get?_prune (t : Tree) (inner : p ≠ []) (q : Place) :
    (t.prune p).get? q = if p <+: q then none else t.get? q := by
  by_cases root : q = []
  · rw [root, get?_nil, get?_nil, if_neg (by simpa using inner)]
  · have kept := lookup_filter (fun k => !p.isPrefixOf k) t.entries q
    rw [get?_of_ne_nil _ root, get?_of_ne_nil _ root, prune, kept]
    by_cases below : p <+: q
    · rw [List.isPrefixOf_iff_prefix.mpr below, if_pos below]
      rfl
    · rw [if_neg below, Bool.eq_false_iff.mpr (mt List.isPrefixOf_iff_prefix.mp below)]
      rfl

/-! ## Ordinary trees -/

/-- A tree in which whatever is there has a directory above it. -/
def Ordinary (t : Tree) : Prop :=
  ∀ p name, t.get? (p ++ [name]) ≠ none → t.get? p = some .directory

/-- A tree is ordinary if all its listed entries have a directory above them. -/
theorem ordinary_of_entries (listed : ∀ x ∈ t.entries, t.get? x.1.dropLast = some .directory) :
    t.Ordinary := by
  intro p name present
  have inner : p ++ [name] ≠ [] := by simp
  rw [get?_of_ne_nil _ inner, Ne, List.lookup_eq_none_iff, not_forall] at present
  obtain ⟨x, absent⟩ := present
  rw [not_forall] at absent
  obtain ⟨member, same⟩ := absent
  have above := listed x member
  rwa [← eq_of_beq (by simpa using same : (p ++ [name] == x.1) = true), List.dropLast_concat]
    at above

namespace Ordinary

variable (ordinary : t.Ordinary)

include ordinary

/-- What is above an entry is a directory. -/
theorem directory_above (more : Place) (present : t.get? (p ++ more) ≠ none) (below : more ≠ []) :
    t.get? p = some .directory := by
  induction more using List.reverseRecOn with
  | nil => exact absurd rfl below
  | append_singleton more name ih =>
    rw [← List.append_assoc] at present
    have above := ordinary _ _ present
    cases more with
    | nil => rwa [List.append_nil] at above
    | cons first more => exact ih (by rw [above]; simp) (by simp)

/-- Below a place without an entry there is nothing. -/
theorem none_below (absent : t.get? p = none) (below : p <+: q) : t.get? q = none := by
  obtain ⟨more, rfl⟩ := below
  by_contra present
  cases more with
  | nil => exact present (by rwa [List.append_nil])
  | cons name more =>
    have above := ordinary.directory_above _ present (by simp)
    rw [absent] at above
    cases above

/-- Something may be put into a directory, unless there is a directory already. -/
theorem put (free : t.get? p ≠ some .directory) (into : t.get? p.dropLast = some .directory)
    (e : Entry) : (t.put p e).Ordinary := by
  have inner : p ≠ [] := by
    rintro rfl
    exact free rfl
  intro q name present
  rw [get?_put _ inner] at present ⊢
  by_cases last : q ++ [name] = p
  · have shorter : q ≠ p := by
      rintro rfl
      simp at last
    rw [if_neg shorter]
    rwa [← last, List.dropLast_concat] at into
  · rw [if_neg last] at present
    have above := ordinary q name present
    have other : q ≠ p := by
      rintro rfl
      exact free above
    rwa [if_neg other]

theorem prune (inner : p ≠ []) : (t.prune p).Ordinary := by
  intro q name present
  rw [get?_prune _ inner] at present ⊢
  have outside : ¬ p <+: q ++ [name] := fun below => present (if_pos below)
  rw [if_neg outside] at present
  rw [if_neg fun below => outside (below.trans (List.prefix_append q [name]))]
  exact ordinary q name present

end Ordinary

end Tree

end TestPlanner.Files
