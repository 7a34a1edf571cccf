import TestPlanner.Proofs.Naming.Identifier
import TestPlanner.Proofs.Text.LetterCase
import TestPlanner.Registry

/-!
# Free names

A new name must not agree in lower case with one that is taken. The search for it tries the base and
then the base with the numbers from two on. Each number that is refused accounts for another taken
name, since two numbers behind one base never agree in lower case; one try more than there are taken
names therefore always ends with a free name (`firstFree_isFirst`), and the name that the search
returns is the first free one in the order of the tries (`freeName_isFirstFree`).
-/

set_option autoImplicit false

namespace TestPlanner.Registry

open Text

/-- A name is the first free one for a base: the base itself if that is free, and else the base with
the smallest number from two on that makes it free. -/
inductive IsFirstFree (taken : List String) (base : String) : String → Prop where
  | base (free : lowered base ∉ taken) : IsFirstFree taken base base
  | numbered (occupied : lowered base ∈ taken) (n : Nat) (atLeastTwo : 2 ≤ n)
      (free : lowered (numbered base n) ∉ taken)
      (smallest : ∀ m, 2 ≤ m → m < n → lowered (numbered base m) ∈ taken) :
      IsFirstFree taken base (numbered base n)

/-- The search from a number on ends with the first number whose name is free, if it may try one
name more than are taken. -/
theorem firstFree_isFirst (base : String) {fuel : Nat} {taken : List String} (start : Nat)
    (enough : taken.length < fuel) :
    ∃ n, start ≤ n ∧ firstFree taken base start fuel = numbered base n ∧
      lowered (numbered base n) ∉ taken ∧
      ∀ m, start ≤ m → m < n → lowered (numbered base m) ∈ taken := by
  induction fuel generalizing taken start with
  | zero => exact absurd enough (Nat.not_lt_zero _)
  | succ fuel ih =>
    by_cases occupied : lowered (numbered base start) ∈ taken
    · have shorter : (taken.erase (lowered (numbered base start))).length < fuel := by
        rw [List.length_erase_of_mem occupied]
        have := List.length_pos_of_mem occupied
        omega
      obtain ⟨n, later, result, free, earlier⟩ := ih (start + 1) shorter
      have other : lowered (numbered base n) ≠ lowered (numbered base start) := by
        intro same
        have := lowered_append_toString_inj same
        omega
      refine ⟨n, by omega, ?_, ?_, ?_⟩
      · simpa only [firstFree, List.contains_iff_mem, occupied, if_true] using result
      · intro member
        exact free ((List.mem_erase_of_ne other).mpr member)
      · intro m atLeast below
        rcases Nat.eq_or_lt_of_le atLeast with rfl | above
        · exact occupied
        · exact List.mem_of_mem_erase (earlier m above below)
    · refine ⟨start, Nat.le_refl start, ?_, occupied, ?_⟩
      · simp only [firstFree, List.contains_iff_mem, occupied, if_false]
      · intro m atLeast below
        omega

/-- **The name that is found is the first free one.** -/
theorem freeName_isFirstFree (taken : List String) (base : String) :
    IsFirstFree taken base (freeName taken base) := by
  unfold freeName
  by_cases occupied : lowered base ∈ taken
  · obtain ⟨n, atLeastTwo, result, free, smallest⟩ :=
      firstFree_isFirst base 2 (Nat.lt_succ_self taken.length)
    simp only [List.contains_iff_mem, occupied, if_true, result]
    exact .numbered occupied n atLeastTwo free smallest
  · simp only [List.contains_iff_mem, occupied, if_false]
    exact .base occupied

namespace IsFirstFree

variable {taken : List String} {base name : String}

/-- A first free name is free. -/
theorem not_mem (first : IsFirstFree taken base name) : lowered name ∉ taken := by
  cases first with
  | base free => exact free
  | numbered _ _ _ free _ => exact free

/-- Only which lower-case forms are taken counts. -/
theorem congr {others : List String} (same : ∀ form, form ∈ taken ↔ form ∈ others)
    (first : IsFirstFree taken base name) : IsFirstFree others base name := by
  cases first with
  | base free => exact .base fun member => free ((same _).mpr member)
  | numbered occupied n atLeastTwo free smallest =>
    exact .numbered ((same _).mp occupied) n atLeastTwo (fun member => free ((same _).mpr member))
      fun m atLeast below => (same _).mp (smallest m atLeast below)

/-- Numbers behind an identifier leave it one. -/
theorem isIdentifier (first : IsFirstFree taken base name)
    (valid : Naming.isIdentifier base = true) : Naming.isIdentifier name = true := by
  cases first with
  | base _ => exact valid
  | numbered _ n _ _ _ => exact Naming.isIdentifier_append_toString n valid

/-- A first free name that does not end in a digit is the base itself. -/
theorem eq_base (first : IsFirstFree taken base name)
    (word : ∀ c ∈ name.toList.getLast?, c.isDigit = false) : base = name := by
  cases first with
  | base _ => rfl
  | numbered _ n _ _ _ =>
    have digits : (toString n).toList ≠ [] := by
      rw [Nat.toString_eq_repr, Nat.toList_repr]
      exact Nat.toDigits_ne_nil
    have last := List.getLast?_eq_some_getLast digits
    have digit := isDigit_of_mem_toString (List.mem_of_getLast? last)
    rw [Registry.numbered, String.toList_append, List.getLast?_append, last, Option.some_or] at word
    rw [word _ rfl] at digit
    cases digit

end IsFirstFree

end TestPlanner.Registry
