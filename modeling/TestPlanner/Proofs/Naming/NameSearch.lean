import Mathlib.Data.Finset.Card
import Mathlib.Order.Interval.Finset.Nat
import TestPlanner.Proofs.Naming.FreeName

/-!
# The search for a number behind a name

The numbers that are tried behind a taken name come from a counter of 32 bits with a sign. The
counter moves on before its number is tried, so the greatest number is never tried: moving on from it
would overflow. The numbers have no other end.

The numbers that are refused lead to names that are taken and all different, so there are no more of
them than taken names (`refused_le_card`). As long as fewer than 2³¹ - 4 names are taken, the search
ends before the counter does, with the name that the registry gives (`search_ends`).
-/

set_option autoImplicit false

namespace TestPlanner.Registry

open Text

/-! ## A counter of 32 bits -/

/-- The number after a counter's, unless that is the greatest. -/
def next? (counter : Int32) : Option Int32 :=
  if counter = Int32.maxValue then none else some (counter + 1)

theorem toInt_of_next? {counter following : Int32} (moved : next? counter = some following) :
    following.toInt = counter.toInt + 1 := by
  simp only [next?, Option.ite_none_left_eq_some, Option.some.injEq] at moved
  obtain ⟨inner, rfl⟩ := moved
  have below : counter.toInt ≠ 2 ^ 31 - 1 := by
    rw [← Int32.toInt_maxValue, Ne, Int32.toInt_inj]
    exact inner
  have least := counter.le_toInt
  have greatest := counter.toInt_lt
  rw [Int32.toInt_add, Int32.toInt_one]
  exact Int.bmod_eq_of_le (by omega) (by omega)

/-- Below the greatest number the counter counts as numbers do. -/
theorem next?_ofNat {n : Nat} (small : n + 1 < 2 ^ 31) :
    next? (Int32.ofNat n) = some (Int32.ofNat (n + 1)) := by
  have inner : Int32.ofNat n ≠ Int32.maxValue := by
    rw [Ne, ← Int32.toInt_inj, Int32.toInt_maxValue, Int32.toInt_ofNat_of_lt (by omega)]
    omega
  rw [next?, if_neg inner, Int32.ofNat_add]
  rfl

/-- A counter is written as its number. -/
theorem toString_ofNat {n : Nat} (small : n < 2 ^ 31) : toString (Int32.ofNat n) = toString n := by
  change toString (Int32.ofNat n).toInt = toString n
  rw [Int32.toInt_ofNat_of_lt small]
  rfl

/-! ## The search -/

/-- How the search for a free name ends. -/
inductive Search where
  /-- with a free name, after so many names with a number were looked at -/
  | found (name : String) (looks : Nat)
  /-- with a counter that cannot move on -/
  | overflow
  deriving DecidableEq, Repr

/-- The search among the names with the numbers from a counter on, after so many of them were looked
at. -/
def searchNumbers (taken : List String) (base : String) (counter : Int32) (looks : Nat) : Search :=
  match moved : next? counter with
  | none => .overflow
  | some following =>
    let candidate := base ++ toString counter
    if lowered candidate ∈ taken then searchNumbers taken base following (looks + 1)
    else .found candidate (looks + 1)
termination_by (Int32.maxValue.toInt - counter.toInt).toNat
decreasing_by
  have above := toInt_of_next? moved
  have greatest := following.toInt_le
  omega

/-- The search for a free name: first the base itself, then the base with the numbers from two on. -/
def searchName (taken : List String) (base : String) : Search :=
  if lowered base ∈ taken then searchNumbers taken base 2 0 else .found base 0

/-- One look of the search. -/
theorem searchNumbers_ofNat (taken : List String) (base : String) {n : Nat}
    (small : n + 1 < 2 ^ 31) (looks : Nat) :
    searchNumbers taken base (Int32.ofNat n) looks =
      if lowered (numbered base n) ∈ taken then
        searchNumbers taken base (Int32.ofNat (n + 1)) (looks + 1)
      else .found (numbered base n) (looks + 1) := by
  rw [searchNumbers]
  split
  next stuck =>
    rw [next?_ofNat small] at stuck
    cases stuck
  next following moved =>
    rw [next?_ofNat small, Option.some.injEq] at moved
    rw [← moved, toString_ofNat (Nat.lt_of_succ_lt small)]
    rfl

/-- **The search among numbers ends at the first one whose name is free,** and has looked once at each
number up to it. -/
theorem searchNumbers_eq_found {taken : List String} {base : String} {start n : Nat}
    (reached : start ≤ n) (small : n + 1 < 2 ^ 31)
    (free : lowered (numbered base n) ∉ taken)
    (smallest : ∀ m, start ≤ m → m < n → lowered (numbered base m) ∈ taken) (looks : Nat) :
    searchNumbers taken base (Int32.ofNat start) looks =
      .found (numbered base n) (looks + (n - start) + 1) := by
  induction ahead : n - start generalizing start looks with
  | zero =>
    obtain rfl : start = n := by omega
    rw [searchNumbers_ofNat taken base small, if_neg free]
  | succ more ih =>
    have refused := smallest start (Nat.le_refl start) (by omega)
    rw [searchNumbers_ofNat taken base (by omega), if_pos refused,
      ih (by omega) (fun m later => smallest m (by omega)) (looks + 1) (by omega)]
    congr 1
    omega

/-- **No more numbers are refused than names are taken:** each of them accounts for another name. -/
theorem refused_le_card {taken : List String} {base : String} {n : Nat}
    (refused : ∀ m, 2 ≤ m → m < n → lowered (numbered base m) ∈ taken) :
    n - 2 ≤ taken.toFinset.card := by
  rw [← Nat.card_Ico]
  refine Finset.card_le_card_of_injOn (fun m => lowered (numbered base m)) ?_ ?_
  · intro m member
    obtain ⟨atLeastTwo, below⟩ := Finset.mem_Ico.mp member
    exact List.mem_toFinset.mpr (refused m atLeastTwo below)
  · intro m _ m' _ same
    exact lowered_append_toString_inj same

/-- **The search ends with a free name.** If fewer than 2³¹ - 4 names are taken, the counter does not
overflow, at most one name with a number more is looked at than names are taken, and the name is the
one that the registry gives; a base that is taken is never given itself. -/
theorem search_ends (taken : List String) (base : String)
    (few : taken.toFinset.card < 2 ^ 31 - 4) :
    ∃ looks ≤ taken.toFinset.card + 1,
      searchName taken base = .found (freeName taken base) looks ∧
      lowered (freeName taken base) ∉ taken ∧
      (lowered base ∈ taken → freeName taken base ≠ base) := by
  have first := freeName_isFirstFree taken base
  have free := first.not_mem
  have other : lowered base ∈ taken → freeName taken base ≠ base := by
    intro occupied same
    rw [same] at free
    exact free occupied
  generalize freeName taken base = name at first free other
  cases first with
  | base vacant => exact ⟨0, Nat.zero_le _, if_neg vacant, free, other⟩
  | numbered occupied n atLeastTwo vacant smallest =>
    have bounded := refused_le_card smallest
    have ended := searchNumbers_eq_found atLeastTwo (by omega) vacant smallest 0
    refine ⟨0 + (n - 2) + 1, by omega, ?_, free, other⟩
    rw [searchName, if_pos occupied]
    exact ended

theorem search_ends_behind_suffixes :
    let taken := ["a", "a2", "b"]
    taken.toFinset.card < 2 ^ 31 - 4 ∧
      ∃ looks ≤ taken.toFinset.card + 1,
        searchName taken "A" = .found "A3" looks ∧ lowered "A3" ∉ taken := by
  intro taken
  have few : taken.toFinset.card < 2 ^ 31 - 4 := by decide
  have given : freeName taken "A" = "A3" := by decide
  obtain ⟨looks, bounded, ended, free, _⟩ := search_ends taken "A" few
  rw [given] at ended free
  exact ⟨few, looks, bounded, ended, free⟩

end TestPlanner.Registry
