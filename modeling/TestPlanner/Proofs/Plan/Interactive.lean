import TestPlanner.Proofs.Artifact.OneLine
import TestPlanner.Proofs.Artifact.PageCall
import TestPlanner.Proofs.Recording.Run
import TestPlanner.Proofs.Recording.StepText
import TestPlanner.Proofs.Screenshot.FieldPlan

/-!
# Plans of clicks and fills

Behind the opening step, the plans of recorded sessions and of screenshots hold clicks and fills
only, each on an identifier, with texts that tell the two apart from the first characters on. In
such a plan a step text determines its call (`Plan.Interactive`).
-/

set_option autoImplicit false

namespace TestPlanner

open Recording Screenshot

/-- A click or a fill on an identifier, with a text that begins like one. -/
inductive Step.Interacts : Step → Prop where
  | click (keyword : Keyword) {text name : String} (begins : ['I', ' ', 'c'] <+: text.toList)
      (visible : Visible text.toList) (valid : Naming.isIdentifier name = true) :
      Interacts (.click keyword text name)
  | fill (keyword : Keyword) {text name : String} (value : String)
      (begins : ['I', ' ', 'f'] <+: text.toList) (visible : Visible text.toList)
      (valid : Naming.isIdentifier name = true) : Interacts (.fill keyword text name value)

/-- A plan that opens the application and goes on with clicks and fills, whose texts determine
their calls. -/
structure Plan.Interactive (p : Plan) (url : Option String) (rest : List Step) : Prop where
  steps : p.steps = .navigate "I am on the application" url :: rest
  each : ∀ s ∈ rest, s.Interacts
  determined : ∀ s ∈ rest, ∀ t ∈ rest, s.text = t.text → s.pageCall? = t.pageCall?

/-- A text between a visible beginning and a visible end is visible, and begins like its
beginning. -/
theorem Visible.framed {text start first middle last : List Char}
    (form : text = first ++ middle ++ last) (starts : start <+: first) (nonempty : first ≠ [])
    (begins : Visible first) (ends : Visible last ∧ last ≠ []) :
    start <+: text ∧ Visible text := by
  subst form
  refine ⟨?starts, ?first, ?last⟩
  case starts =>
    rw [List.append_assoc]
    exact starts.trans (List.prefix_append _ _)
  case first =>
    rw [List.append_assoc, List.head?_append_of_ne_nil _ nonempty]
    exact begins.first
  case last =>
    rw [List.getLast?_append_of_ne_nil _ ends.2]
    exact ends.1.last

/-! ## Recorded sessions -/

namespace Recording.Session

/-- What is clicked ends visibly. -/
theorem visible_clickTarget (a : UserAction) :
    Visible (clickTarget a).toList ∧ (clickTarget a).toList ≠ [] := by
  have member := clickTarget_mem a
  simp only [List.mem_cons, List.not_mem_nil, or_false] at member
  rcases member with target | target | target
  · rw [target]; exact ⟨⟨by decide, by decide⟩, by decide⟩
  · rw [target]; exact ⟨⟨by decide, by decide⟩, by decide⟩
  · rw [target]; exact ⟨⟨by decide, by decide⟩, by decide⟩

theorem interacts_actionStep (first : Bool) {name : String} (a : UserAction)
    (valid : Naming.isIdentifier name = true) : (actionStep first name a).Interacts := by
  unfold actionStep
  cases kind : a.kind with
  | click =>
    have text : (stepText a).toList = "I click on the '".toList ++
        ((caption a).toList ++ "' ".toList) ++ (clickTarget a).toList := by
      simp only [stepText, kind, String.toList_append, List.append_assoc]
    obtain ⟨begins, visible⟩ := Visible.framed text
      (by decide : ['I', ' ', 'c'] <+: "I click on the '".toList) (by decide)
      ⟨by decide, by decide⟩ (visible_clickTarget a)
    exact .click _ begins visible valid
  | fill =>
    have text : (stepText a).toList = "I fill the '".toList ++
        ((caption a).toList ++ "' field with '".toList ++ (a.value.getD "").toList) ++
          "'".toList := by
      simp only [stepText, kind, String.toList_append, List.append_assoc]
    obtain ⟨begins, visible⟩ := Visible.framed text
      (by decide : ['I', ' ', 'f'] <+: "I fill the '".toList) (by decide)
      ⟨by decide, by decide⟩ ⟨⟨by decide, by decide⟩, by decide⟩
    exact .fill _ _ begins visible valid

/-- **The plan of a session holds clicks and fills with texts of their own.** -/
theorem interactive_after_new (start : String) (feature : Option String) (calls : List Call) :
    ((new start feature).after calls).plan.Interactive (some start)
      ((new start feature).after calls).actions := by
  refine ⟨?steps, ?each, ?determined⟩
  case steps => simp only [plan, start_after, new]
  case each =>
    intro t member
    obtain ⟨a, first, name, found, rfl⟩ := (located_new start feature).after calls t member
    exact interacts_actionStep first a ((coherent_after_new start feature calls).identifiers _
      (Registry.mem_entries_of_get? found))
  case determined =>
    intro s memberS t memberT same
    rw [List.inj_on_of_nodup_map (texts_nodup_after_new start feature calls) memberS memberT same]

end Recording.Session

/-! ## Screenshots -/

namespace Screenshot

theorem Target.interacts_step (first : Bool) {name : String} (t : Target)
    (valid : Naming.isIdentifier name = true) : (t.step first name).Interacts := by
  cases t with
  | button label =>
    have text : ("I click the '" ++ label ++ "' button").toList =
        "I click the '".toList ++ label.toList ++ "' button".toList := by
      simp only [String.toList_append]
    obtain ⟨begins, visible⟩ := Visible.framed text
      (by decide : ['I', ' ', 'c'] <+: "I click the '".toList) (by decide)
      ⟨by decide, by decide⟩ ⟨⟨by decide, by decide⟩, by decide⟩
    exact .click _ begins visible valid
  | text label =>
    have text : ("I fill the '" ++ label ++ "' field with '" ++ fillValue ++ "'").toList =
        "I fill the '".toList ++ (label.toList ++ ("' field with '" ++ fillValue).toList) ++
          "'".toList := by
      simp only [String.toList_append, List.append_assoc]
    obtain ⟨begins, visible⟩ := Visible.framed text
      (by decide : ['I', ' ', 'f'] <+: "I fill the '".toList) (by decide)
      ⟨by decide, by decide⟩ ⟨⟨by decide, by decide⟩, by decide⟩
    exact .fill _ _ begins visible valid

/-- The text of a target's step tells the target. -/
theorem Target.step_inj {first first' : Bool} {name name' : String} {t t' : Target}
    (same : (t.step first name).text = (t'.step first' name').text) : t = t' := by
  have third := congrArg (fun s => s.toList[2]?) same
  cases t with
  | button label =>
    cases t' with
    | button label' =>
      simp only [step, Step.click, String.append_left_inj, String.append_right_inj] at same
      rw [same]
    | text label' => simp [step, Step.click, Step.fill, String.toList_append] at third
  | text label =>
    cases t' with
    | button label' => simp [step, Step.click, Step.fill, String.toList_append] at third
    | text label' =>
      simp only [step, Step.fill, String.append_left_inj, String.append_right_inj] at same
      rw [same]

/-- **The plan for detected fields holds clicks and fills, one call for a text.** -/
theorem interactive_of_plan? {feature fileName : String} {fields : List DetectedField} {p : Plan}
    (made : plan? feature fileName fields = some p) : ∃ rest, p.Interactive none rest := by
  obtain ⟨_, rfl⟩ := plan?_eq_some_iff.mp made
  have each := exists_target (targetSteps_fst true .empty (fields.filterMap target?))
  have coherent : (targetSteps true .empty (fields.filterMap target?)).2.Coherent := by
    rw [targetSteps_snd]
    exact Registry.coherent_empty.after _
  refine ⟨_, rfl, ?interacts, ?determined⟩
  case interacts =>
    intro s member
    obtain ⟨t, _, first, name, found, rfl⟩ := each s member
    exact t.interacts_step first
      (coherent.identifiers _ (Registry.mem_entries_of_get? found))
  case determined =>
    intro s memberS s' memberS' same
    obtain ⟨t, _, first, name, found, rfl⟩ := each s memberS
    obtain ⟨t', _, first', name', found', rfl⟩ := each s' memberS'
    obtain rfl := Target.step_inj same
    obtain rfl := Option.some.inj (found.symm.trans found')
    cases t <;> rfl

end Screenshot

end TestPlanner
