import TestPlanner.Proofs.Naming.Registry
import TestPlanner.Proofs.Plan.Validity

/-!
# Plans whose locators a registry names

Recorded sessions and screenshots make their plans the same way: an opening step, then steps on
elements that a registry names, and the registry's locators. If the registry is coherent, such a
plan is well-formed (`Plan.WellFormed.of_registry`).
-/

set_option autoImplicit false

namespace TestPlanner.Plan

/-- A step on an element that a registry names, and not a `Given`. -/
def Names (r : Registry) (s : Step) : Prop :=
  s.keyword ≠ .given ∧ ∃ selector name, r.get? selector = some name ∧ s.locator = some name

/-- **A plan with the locators of a coherent registry is well-formed** if it opens with a `Given` on
no locator and goes on with steps on named elements. -/
theorem WellFormed.of_registry {p : Plan} {r : Registry} {first : Step} {rest : List Step}
    (coherent : r.Coherent) (locators : p.locators = r.locators) (steps : p.steps = first :: rest)
    (given : first.keyword = .given) (free : first.locator = none)
    (named : ∀ s ∈ rest, Names r s) : p.WellFormed := by
  refine ⟨⟨first, rest, steps, given, fun s member => (named s member).1⟩, ?_, ?_⟩
  · have forms : (p.locators.map fun l => Text.lowered l.name) = r.taken := by
      rw [locators, Registry.locators, List.map_map]
      rfl
    rw [forms]
    exact coherent.taken_nodup
  · intro s member name acts
    rw [steps] at member
    rcases List.mem_cons.mp member with rfl | later
    · rw [free] at acts
      cases acts
    · obtain ⟨_, selector, known, found, acts'⟩ := named s later
      obtain rfl := Option.some.inj (acts'.symm.trans acts)
      rw [locators]
      exact ⟨_, List.mem_map_of_mem (Registry.mem_entries_of_get? found), rfl⟩

/-- **The name of a selector finds the locator of that selector.** -/
theorem locator?_of_registry {p : Plan} {r : Registry} (coherent : r.Coherent)
    (locators : p.locators = r.locators) {selector name : String}
    (found : r.get? selector = some name) :
    p.locator? name = some ⟨name, selector, none, none⟩ := by
  have listed := Registry.mem_entries_of_get? found
  have some_locator : (p.locator? name).isSome = true := by
    rw [isSome_locator?_iff, locators]
    exact ⟨_, List.mem_map_of_mem listed, rfl⟩
  obtain ⟨l, located⟩ := Option.isSome_iff_exists.mp some_locator
  have member := List.mem_of_find?_eq_some located
  rw [locators] at member
  obtain ⟨entry, other, rfl⟩ := List.mem_map.mp member
  have same : entry.2 = name := by simpa using List.find?_some located
  -- names that agree, agree in lower case, so there is one entry of the name
  obtain rfl := List.inj_on_of_nodup_map coherent.taken_nodup other listed
    (congrArg Text.lowered same)
  exact located

end TestPlanner.Plan
