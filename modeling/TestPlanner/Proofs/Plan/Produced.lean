import TestPlanner.Proofs.Plan.Interactive
import TestPlanner.Proofs.Prose.Elements

/-!
# Produced plans

Plans come from prose, from screenshots and from recorded sessions (`Produced`). Whatever the text,
the fields or the calls, such a plan opens with the one `Given`, which goes to the application; its
locator names stay apart in lower case; and its steps act on its own locators. The check therefore
has nothing to say about it but that its feature name is unusable, and a run, which passes over
plans of unusable names, never refuses it (`produced_accepted`).
-/

set_option autoImplicit false

namespace TestPlanner

open Text Recording

/-- A plan of what was done to the elements of a page, seen in a screenshot or recorded. -/
inductive Enacted : Plan → Prop where
  | screenshot (feature fileName : String) (fields : List DetectedField) (p : Plan)
      (made : Screenshot.plan? feature fileName fields = some p) : Enacted p
  | recording (start : String) (feature : Option String) (calls : List Session.Call) :
      Enacted ((Session.new start feature).after calls).plan

/-- A plan that one of the built-in sources of plans makes. -/
inductive Produced : Plan → Prop where
  | prose (text : String) (feature : Option String) (marker : Option Prose.Marker)
      (timestamp : String) : Produced (Prose.analyze text feature marker timestamp)
  | enacted {p : Plan} (enacted : Enacted p) : Produced p

/-- **Plans of what was done hold clicks and fills behind their opening step.** -/
theorem Enacted.interactive {p : Plan} (enacted : Enacted p) :
    ∃ url rest, p.Interactive url rest := by
  cases enacted with
  | screenshot feature fileName fields p made =>
    exact ⟨none, Screenshot.interactive_of_plan? made⟩
  | recording start feature calls =>
    exact ⟨_, _, Session.interactive_after_new start feature calls⟩

namespace Produced

variable {p : Plan}

theorem wellFormed (produced : Produced p) : p.WellFormed := by
  cases produced with
  | prose text feature marker timestamp =>
    exact Prose.wellFormed_analyze text feature marker timestamp
  | enacted enacted =>
    cases enacted with
    | screenshot feature fileName fields p made => exact Screenshot.wellFormed_of_plan? made
    | recording start feature calls => exact Session.wellFormed_after_new start feature calls

/-- A produced plan opens by going to the application. -/
theorem opens (produced : Produced p) :
    ∃ text url rest, p.steps = Step.navigate text url :: rest := by
  cases produced with
  | prose text feature marker timestamp => exact ⟨_, _, _, rfl⟩
  | enacted enacted =>
    obtain ⟨url, rest, interactive⟩ := enacted.interactive
    exact ⟨_, _, _, interactive.steps⟩

end Produced

/-- **Produced plans are structurally valid.** The check passes them exactly when their feature name
is usable, and a run takes them or, if the name is unusable, has nothing to do. -/
theorem produced_accepted {p : Plan} (produced : Produced p) :
    (∃ first rest, p.steps = first :: rest ∧ first.keyword = .given ∧
      first.action = some .navigate ∧ ∀ s ∈ rest, s.keyword ≠ .given) ∧
    (p.locators.map fun l => lowered l.name).Nodup ∧
    (∀ s ∈ p.steps, ∀ name, s.locator = some name → ∃ l ∈ p.locators, l.name = name) ∧
    (p.check = .ok () ↔ p.safeName.isEmpty = false) ∧
    Synthesis.accepted (.ok (some p)) = .ok (if p.safeName.isEmpty then none else some p) := by
  have sound := produced.wellFormed
  refine ⟨?opening, sound.apart, sound.resolved, sound.check_eq_ok_iff, sound.accepted⟩
  obtain ⟨text, url, rest, steps⟩ := produced.opens
  obtain ⟨first, others, split, given, sole⟩ := sound.opening
  obtain ⟨rfl, rfl⟩ := List.cons.inj (steps.symm.trans split)
  exact ⟨_, rest, steps, given, rfl, sole⟩

/-- A session whose actions ask for one name in different cases, with a suffix that is itself a
label. -/
theorem produced_accepted_colliding :
    let click (selector label : String) : Session.Call :=
      .apply ⟨.click, selector, some label, some "button", none, none⟩
    let p := ((Session.new "http://shop.example/" (some "Cart")).after
      [.begin none, click "#a" "Add", click "#b" "add", click "#c" "Add2",
        click "#a" "Add now"]).plan
    Produced p ∧ p.locators.map Locator.name = ["add", "add2", "add22"] ∧
      p.check = .ok () ∧ Synthesis.accepted (.ok (some p)) = .ok (some p) := by
  intro click p
  have produced : Produced p := .enacted (.recording _ _ _)
  have usable : p.safeName.isEmpty = false := by decide +kernel
  obtain ⟨_, _, _, check, accepted⟩ := produced_accepted produced
  refine ⟨produced, by decide +kernel, check.mpr usable, ?_⟩
  rw [accepted, usable]
  rfl

end TestPlanner
