import TestPlanner.Proofs.Recording.Repetition
import Mathlib.Data.List.Forall2

/-!
# The values of recorded fields

A field is filled any number of times, between actions on other elements. The plan keeps one step
for each action that reads like none before it, wherever in the session that was (`newActions`), and
every step is that of its action (`steps_of_newActions`). So the fill steps on the locator of a
selector are those of its new fills, in order, and the last of them has the value of the last new
one (`lastValue_eq`). That is the value that the user left in the field if the last fill was new.

**Controls.** A field that is set back to an earlier value is left at a later one, since the last
fill reads like the first. A field that is filled like another one of the same caption is not filled
at all (`value_not_left`).
-/

set_option autoImplicit false

namespace TestPlanner.Recording.Session

/-! ## New actions -/

/-- The actions that read like none before them, when `earlier` were applied first. -/
def newActions (earlier : List UserAction) : List UserAction → List UserAction
  | [] => []
  | a :: acts =>
    if ∃ b ∈ earlier, ReadAlike b a then newActions (earlier ++ [a]) acts
    else a :: newActions (earlier ++ [a]) acts

/-- Of two batches of actions, the second one is new after the first. -/
theorem newActions_append (earlier acts more : List UserAction) :
    newActions earlier (acts ++ more) =
      newActions earlier acts ++ newActions (earlier ++ acts) more := by
  induction acts generalizing earlier with
  | nil => rw [List.nil_append, List.append_nil, newActions, List.nil_append]
  | cons a acts ih =>
    have batch : earlier ++ a :: acts = earlier ++ [a] ++ acts := by
      rw [List.append_assoc, List.singleton_append]
    rw [List.cons_append, newActions, newActions, ih, batch]
    split
    next => rfl
    next => rw [List.cons_append]

theorem newActions_singleton (earlier : List UserAction) (a : UserAction) :
    newActions earlier [a] = if ∃ b ∈ earlier, ReadAlike b a then [] else [a] := rfl

theorem newActions_subset (earlier acts : List UserAction) : newActions earlier acts ⊆ acts := by
  induction acts generalizing earlier with
  | nil => exact List.Subset.refl _
  | cons a acts ih =>
    rw [newActions]
    split
    next => exact List.subset_cons_of_subset a (ih _)
    next => exact List.cons_subset_cons a (ih _)

/-- A step is that of an action, on the locator that the registry has for its selector. -/
def StepOf (r : Registry) (a : UserAction) (t : Step) : Prop :=
  ∃ first name, r.get? (Selector.raw a.selector) = some name ∧ t = actionStep first name a

theorem StepOf.resolve {r : Registry} {a : UserAction} {t : Step} (made : StepOf r a t)
    (selector label : String) : StepOf (r.resolve selector label).2 a t := by
  obtain ⟨first, name, found, form⟩ := made
  exact ⟨first, name, Registry.get?_resolve_of_get? selector label found, form⟩

/-- **The steps of a session are those of its new actions,** in order. -/
theorem steps_of_newActions (start : String) (feature : Option String) (calls : List Call) :
    let s := (new start feature).after calls
    List.Forall₂ (StepOf s.registry) (newActions [] (actionsOf calls)) s.actions := by
  induction calls using List.reverseRecOn with
  | nil => exact .nil
  | append_singleton calls c ih =>
    have texts := texts_after_new start feature calls
    simp only [after_concat, actionsOf_concat] at ih ⊢
    generalize (new start feature).after calls = s at ih texts
    cases c with
    | begin title =>
      simpa only [call, registry_begin, actions_begin, Call.action?, Option.toList_none,
        List.append_nil] using ih
    | apply a =>
      have known : stepText a ∈ s.actions.map Step.text ↔
          ∃ b ∈ actionsOf calls, ReadAlike b a := by
        rw [texts, List.mem_eraseDups, List.mem_map]
        exact exists_congr fun b => and_congr_right fun _ => stepText_eq_iff_readAlike b a
      have kept : List.Forall₂ (StepOf (s.element a).2) (newActions [] (actionsOf calls))
          s.actions := ih.imp fun b t made => made.resolve _ _
      simp only [call, Call.action?, Option.toList_some, newActions_append, List.nil_append,
        newActions_singleton]
      obtain ⟨repeated, step⟩ | ⟨new, step⟩ := s.apply_cases a
      · rw [step, if_pos (known.mp repeated), List.append_nil]
        exact kept
      · rw [step, if_neg (mt known.mpr new)]
        exact List.rel_append kept
          (.cons ⟨_, _, Registry.get?_resolve _ _ _, rfl⟩ .nil)

/-! ## Fills of one field -/

/-- Whether an action fills the element of a selector. -/
def fills (selector : String) (a : UserAction) : Bool :=
  a.kind == .fill && a.selector == selector

/-- Whether a step fills a locator. -/
def fillsLocator (name : String) (t : Step) : Bool :=
  t.action == some .fill && t.locator == some name

/-- The value of the last step that fills a locator. -/
def lastValue? (steps : List Step) (name : String) : Option String :=
  ((steps.filter (fillsLocator name)).getLast?).bind Step.value

theorem fillsLocator_actionStep (first : Bool) (name name' : String) (a : UserAction) :
    fillsLocator name (actionStep first name' a) = (a.kind == .fill && name' == name) := by
  unfold fillsLocator actionStep
  cases a.kind with
  | click => rfl
  | fill => simp only [Step.fill, Option.some_beq_some, beq_self_eq_true]

/-- A step fills the locator of a selector exactly if its action fills the selector. -/
theorem StepOf.fills_iff {r : Registry} (coherent : r.Coherent) {selector name : String}
    (found : r.get? (Selector.raw selector) = some name) {a : UserAction} {t : Step}
    (made : StepOf r a t) : fills selector a = true ↔ fillsLocator name t = true := by
  obtain ⟨first, name', found', rfl⟩ := made
  rw [fillsLocator_actionStep, fills, Bool.and_eq_true, Bool.and_eq_true, beq_iff_eq, beq_iff_eq,
    beq_iff_eq]
  refine and_congr_right fun _ => ⟨?_, ?_⟩
  · rintro rfl
    exact Option.some.inj (found'.symm.trans found)
  · rintro rfl
    exact Selector.raw_inj (coherent.selector_eq found' found rfl)

theorem value_actionStep_of_fill {selector : String} {a : UserAction}
    (filled : fills selector a = true) (first : Bool) (name : String) :
    (actionStep first name a).value = some (a.value.getD "") := by
  rw [fills, Bool.and_eq_true, beq_iff_eq] at filled
  simp only [actionStep, filled.1, Step.fill]

/-- The opening step fills nothing. -/
theorem filter_fillsLocator_plan (s : Session) (name : String) :
    s.plan.steps.filter (fillsLocator name) = s.actions.filter (fillsLocator name) :=
  List.filter_cons_of_neg (by simp [fillsLocator, Step.navigate])

/-- The steps that fill a locator have the values of the actions that fill its selector. -/
theorem values_of_steps {r : Registry} (coherent : r.Coherent) {selector name : String}
    (found : r.get? (Selector.raw selector) = some name) {acts : List UserAction}
    {steps : List Step} (each : List.Forall₂ (StepOf r) acts steps) :
    (steps.filter (fillsLocator name)).map Step.value =
      (acts.filter (fills selector)).map fun a => some (a.value.getD "") := by
  induction each with
  | nil => rfl
  | @cons a t acts steps made _ ih =>
    have same := made.fills_iff coherent found
    by_cases filled : fills selector a = true
    · obtain ⟨first, name', _, rfl⟩ := made
      rw [List.filter_cons_of_pos (same.mp filled), List.filter_cons_of_pos filled, List.map_cons,
        List.map_cons, ih, value_actionStep_of_fill filled]
    · rw [List.filter_cons_of_neg (mt same.mpr filled), List.filter_cons_of_neg filled, ih]

/-- The new fills end with the last fill, if that is new. -/
theorem getLast?_new_fills {selector : String} {earlier later : List UserAction} {a : UserAction}
    (filled : fills selector a = true) (last : ∀ b ∈ later, fills selector b = false)
    (new : ∀ b ∈ earlier, ¬ ReadAlike b a) :
    ((newActions [] (earlier ++ a :: later)).filter (fills selector)).getLast? = some a := by
  have kept : newActions earlier [a] = [a] := by
    rw [newActions_singleton, if_neg fun ⟨b, member, alike⟩ => new b member alike]
  have rest : (newActions (earlier ++ [a]) later).filter (fills selector) = [] := by
    refine List.filter_eq_nil_iff.mpr fun b member => ?_
    rw [last b (newActions_subset _ _ member)]
    exact Bool.false_ne_true
  rw [← List.singleton_append, newActions_append, newActions_append, List.nil_append, kept]
  simp only [List.filter_append, rest, List.filter_singleton, filled, cond_true, List.append_nil,
    List.getLast?_concat]

/-- A selector that is filled has a name. -/
theorem exists_name_of_fills (start : String) (feature : Option String) {calls : List Call}
    {selector : String} (filled : ∃ a ∈ actionsOf calls, fills selector a = true) :
    ∃ name, ((new start feature).after calls).registry.get? (Selector.raw selector) =
      some name := by
  obtain ⟨a, applied, own⟩ := filled
  rw [fills, Bool.and_eq_true, beq_iff_eq, beq_iff_eq] at own
  have listed :=
    (mem_selectors_after_new start feature calls selector).mpr ⟨a, applied, own.2⟩
  obtain ⟨entry, member, same⟩ := List.mem_map.mp listed
  exact ⟨entry.2, same ▸ (coherent_after_new start feature calls).get?_of_mem member⟩

/-- **The last fill step of a field has the value of its last new fill.** A selector that is filled
has one locator. The steps that fill the locator are those of the new fills of the selector, in
order, each with the value of its fill. So the last of them has the value of the last new fill,
which is the last fill of all if that one reads like no action before it; and no step fills the
locator exactly if no fill of the selector was new. -/
theorem lastValue_eq (start : String) (feature : Option String) (calls : List Call)
    (selector : String) (filled : ∃ a ∈ actionsOf calls, fills selector a = true) :
    let p := ((new start feature).after calls).plan
    let newFills := (newActions [] (actionsOf calls)).filter (fills selector)
    ∃ name, p.locators.filter (fun l => l.selector == Selector.raw selector) =
        [⟨name, Selector.raw selector, none, none⟩] ∧
      ((p.steps.filter (fillsLocator name)).map Step.value =
        newFills.map fun a => some (a.value.getD "")) ∧
      (lastValue? p.steps name = newFills.getLast?.map fun a => a.value.getD "") ∧
      (∀ earlier a later, actionsOf calls = earlier ++ a :: later → fills selector a = true →
        (∀ b ∈ later, fills selector b = false) → (∀ b ∈ earlier, ¬ ReadAlike b a) →
        lastValue? p.steps name = some (a.value.getD "")) := by
  intro p newFills
  have coherent := coherent_after_new start feature calls
  obtain ⟨name, found⟩ := exists_name_of_fills start feature filled
  have values : (p.steps.filter (fillsLocator name)).map Step.value =
      newFills.map fun a => some (a.value.getD "") := by
    rw [filter_fillsLocator_plan]
    exact values_of_steps coherent found
      (steps_of_newActions start feature calls)
  have last : lastValue? p.steps name = newFills.getLast?.map fun a => a.value.getD "" := by
    have lasts := congrArg List.getLast? values
    rw [List.getLast?_map, List.getLast?_map] at lasts
    have twice : lastValue? p.steps name =
        ((p.steps.filter (fillsLocator name)).getLast?.map Step.value).bind id := by
      rw [Option.bind_map]
      rfl
    rw [twice, lasts, Option.bind_map]
    cases newFills.getLast? <;> rfl
  refine ⟨name, coherent.locators_of_get? found, values, last, ?_⟩
  intro earlier b later split filled ends new
  have final : newFills.getLast? = some b := by
    simp only [newFills, split]
    exact getLast?_new_fills filled ends new
  rw [last, final, Option.map_some]

/-- Two fields of different captions are filled alike, and the first one is then cleared. -/
theorem lastValue_eq_cleared :
    let fill (selector caption : String) (value : Option String) : UserAction :=
      ⟨.fill, selector, some caption, none, none, value⟩
    let earlier := [fill "#q" "Quantity" (some "1"), fill "#n" "Number" (some "1")]
    let p := ((new "http://shop.example/" none).after
      ((earlier ++ [fill "#q" "Quantity" none]).map .apply)).plan
    fills "#q" (fill "#q" "Quantity" none) = true ∧
      ∃ name, p.locators.filter (fun l => l.selector == Selector.raw "#q") =
          [⟨name, Selector.raw "#q", none, none⟩] ∧ lastValue? p.steps name = some "" := by
  intro fill earlier p
  have own : fills "#q" (fill "#q" "Quantity" none) = true := by decide
  have new : ∀ b ∈ earlier, ¬ ReadAlike b (fill "#q" "Quantity" none) := by decide +kernel
  obtain ⟨name, only, _, _, last⟩ := lastValue_eq "http://shop.example/" none
    ((earlier ++ [fill "#q" "Quantity" none]).map .apply) "#q" ⟨_, List.mem_cons_self, by decide⟩
  exact ⟨own, name, only, last earlier _ [] rfl own (List.forall_mem_nil _) new⟩

/-- A field that is set back to its first value is left at the second one, and a field that is
filled like another one of the same caption is not filled. -/
theorem value_not_left :
    let fill (selector value : String) : UserAction :=
      ⟨.fill, selector, some "Quantity", none, none, some value⟩
    let plan (acts : List UserAction) : Plan :=
      ((new "http://shop.example/" none).after (acts.map .apply)).plan
    let restored := [fill "#q" "1", fill "#q" "2", fill "#q" "1"]
    let copied := [fill "#q" "1", fill "#r" "1"]
    ((restored.filter (fills "#q")).getLast?.map UserAction.value = some (some "1") ∧
      (plan restored).locators = [⟨"quantity", Selector.raw "#q", none, none⟩] ∧
      lastValue? (plan restored).steps "quantity" = some "2") ∧
    ((copied.filter (fills "#r")).getLast?.map UserAction.value = some (some "1") ∧
      (plan copied).locators = [⟨"quantity", Selector.raw "#q", none, none⟩,
        ⟨"quantity2", Selector.raw "#r", none, none⟩] ∧
      lastValue? (plan copied).steps "quantity2" = none) := by
  decide +kernel

end TestPlanner.Recording.Session
