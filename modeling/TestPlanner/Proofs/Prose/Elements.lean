import TestPlanner.Proofs.Plan.Validity
import TestPlanner.Proofs.Text.LetterCase
import TestPlanner.Prose.Analysis
import Mathlib.Data.List.Nodup

/-!
# Plans from prose are well-formed

The locators of a text are those of the keyword table that it calls for, and one numbered locator
for every quoted piece. The names of the table stay apart in lower case, the numbered ones differ
in their numbers, and no name of the table starts like a numbered one (`inferredLocators_apart`).
The steps act on these locators only, and they open with the one `Given` (`wellFormed_analyze`).
-/

set_option autoImplicit false

namespace TestPlanner.Prose

open Text

/-- The word in front of the numbers of quoted pieces. -/
def quotedStem : String := "textElement"

/-- The names of the keyword table stay apart in lower case. -/
theorem locatorRules_apart : (locatorRules.map fun r => lowered r.name).Nodup := by
  decide +kernel

/-- No name of the keyword table starts like a numbered one. -/
theorem locatorRules_apart_quoted :
    ∀ r ∈ locatorRules, (lowered r.name).toList.head? ≠ some 't' := by
  decide +kernel

/-- A numbered name starts like its stem. -/
theorem head_lowered_quoted (n : Nat) :
    (lowered (quotedStem ++ toString n)).toList.head? = some 't' := by
  have stem : lowered quotedStem = "textelement" := by decide +kernel
  rw [lowered_append_toString, stem, String.toList_append]
  rfl

/-- The names of quoted pieces are numbered from the first number on. -/
theorem exists_number_of_mem_quotedLocators {n : Nat} {pieces : List (List Char)} :
    ∀ l ∈ quotedLocators n pieces, ∃ m, n ≤ m ∧ l.name = quotedStem ++ toString m := by
  induction pieces generalizing n with
  | nil => exact fun _ member => absurd member List.not_mem_nil
  | cons piece pieces ih =>
    intro l member
    rcases List.mem_cons.mp member with rfl | later
    · exact ⟨n, Nat.le_refl n, rfl⟩
    · obtain ⟨m, above, name⟩ := ih l later
      exact ⟨m, by omega, name⟩

/-- The names of quoted pieces stay apart in lower case. -/
theorem quotedLocators_apart (n : Nat) (pieces : List (List Char)) :
    ((quotedLocators n pieces).map fun l => lowered l.name).Nodup := by
  induction pieces generalizing n with
  | nil => exact List.nodup_nil
  | cons piece pieces ih =>
    refine List.nodup_cons.mpr ⟨fun member => ?_, ih (n + 1)⟩
    obtain ⟨l, later, same⟩ := List.mem_map.mp member
    obtain ⟨m, above, name⟩ := exists_number_of_mem_quotedLocators l later
    rw [name] at same
    have number : m = n := lowered_append_toString_inj same
    omega

/-- **The names of inferred locators stay apart in lower case.** -/
theorem inferredLocators_apart (text : List Char) :
    ((inferredLocators text).map fun l => lowered l.name).Nodup := by
  have names : ((inferredLocators text).map fun l => lowered l.name) =
      ((keywordLocators text).map fun l => lowered l.name) ++
        (quotedLocators 1 (quotedPieces text)).map fun l => lowered l.name := by
    rw [inferredLocators, List.map_map, List.map_append]
    rfl
  have keywords : ((keywordLocators text).map fun l => lowered l.name) =
      (locatorRules.filter fun r => mentions r.keywords (lower text)).map
        fun r => lowered r.name := by
    rw [keywordLocators, List.map_map]
    rfl
  rw [names, keywords]
  refine List.nodup_append.mpr ⟨?_, quotedLocators_apart 1 _, ?_⟩
  · exact (List.filter_sublist.map _).nodup locatorRules_apart
  · intro form fromTable other fromPiece same
    obtain ⟨r, listed, rfl⟩ := List.mem_map.mp fromTable
    obtain ⟨l, piece, rfl⟩ := List.mem_map.mp fromPiece
    obtain ⟨m, _, name⟩ := exists_number_of_mem_quotedLocators l piece
    refine locatorRules_apart_quoted r (List.mem_filter.mp listed).1 ?_
    rw [same, name]
    exact head_lowered_quoted m

/-- The step of a locator is no `Given` and acts on the locator. -/
theorem of_locatorStep? {l : Locator} {s : Step} (made : locatorStep? l = some s) :
    s.keyword = .when ∧ s.locator = some l.name := by
  unfold locatorStep? at made
  split at made
  · obtain rfl := Option.some.inj made
    exact ⟨rfl, rfl⟩
  · obtain rfl := Option.some.inj made
    exact ⟨rfl, rfl⟩
  · cases made

/-- **A plan from prose is well-formed.** -/
theorem wellFormed_analyze (text : String) (feature : Option String) (marker : Option Marker)
    (timestamp : String) : (analyze text feature marker timestamp).WellFormed := by
  have inferred : ∀ s ∈ (inferredLocators text.toList).filterMap locatorStep?,
      s.keyword = .when ∧ ∃ l ∈ inferredLocators text.toList, s.locator = some l.name := by
    intro s member
    obtain ⟨l, listed, made⟩ := List.mem_filterMap.mp member
    exact ⟨(of_locatorStep? made).1, l, listed, (of_locatorStep? made).2⟩
  refine ⟨⟨_, _, rfl, rfl, ?_⟩, inferredLocators_apart _, ?_⟩
  · intro s member
    rcases List.mem_append.mp member with made | last
    · rw [(inferred s made).1]
      decide
    · rw [List.mem_singleton.mp last]
      decide
  · intro s member name acts
    rcases List.mem_cons.mp member with rfl | later
    · cases acts
    rcases List.mem_append.mp later with made | last
    · obtain ⟨_, l, listed, acts'⟩ := inferred s made
      exact ⟨l, listed, Option.some.inj (acts'.symm.trans acts)⟩
    · rw [List.mem_singleton.mp last] at acts
      cases acts

end TestPlanner.Prose
