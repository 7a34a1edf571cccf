import TestPlanner.Proofs.Plan.Produced

/-!
# Where bindings and test agree

The test makes the call of every step. The bindings keep one call for a pattern, that of the first
step that reads the same on one line. For a plan of what was done, a step and its binding therefore
agree exactly when that first step has the locator and the value of the step
(`binding_agrees_iff`). Steps of one text always do, and steps without line breaks have no other
company.

**Controls.** A line break and a space read alike on one line, while the plan takes their texts for
different ones. `binding_disagrees` has two such fills of one field, `binding_agrees_iff_buttons`
two such buttons.
-/

set_option autoImplicit false

namespace TestPlanner

open Recording

/-- A text keeps its third character on one line if it begins visibly. -/
theorem third_of_begins {text : List Char} {letter : Char} (begins : ['I', ' ', letter] <+: text)
    (visible : Visible ['I', ' ', letter]) (line : OnOneLine ['I', ' ', letter]) :
    (singleLineChars text)[2]? = some letter := by
  obtain ⟨rest, rfl⟩ := begins
  obtain ⟨shown, kept⟩ := prefix_singleLineChars visible (List.cons_ne_nil _ _) line rest
  rw [← kept]
  rfl

namespace Step.Interacts

variable {s t : Step}

/-- A click or a fill makes a call on an identifier. -/
theorem exists_pageCall (interacts : s.Interacts) :
    ∃ c, s.pageCall? = some c ∧ Naming.isIdentifier c.locator = true := by
  cases interacts with
  | click keyword _ _ valid => exact ⟨_, rfl, valid⟩
  | fill keyword value _ _ valid => exact ⟨_, rfl, valid⟩

theorem visible (interacts : s.Interacts) : Visible s.text.toList ∧ s.text.toList ≠ [] := by
  cases interacts with
  | click keyword begins visible _ =>
    exact ⟨visible, List.ne_nil_of_length_pos (Nat.lt_of_lt_of_le (by decide) begins.length_le)⟩
  | fill keyword value begins visible _ =>
    exact ⟨visible, List.ne_nil_of_length_pos (Nat.lt_of_lt_of_le (by decide) begins.length_le)⟩

/-- The third character of the one-line text tells a click from a fill. -/
theorem third (interacts : s.Interacts) :
    (s.action = some .click ∧ (singleLineChars s.text.toList)[2]? = some 'c') ∨
      (s.action = some .fill ∧ (singleLineChars s.text.toList)[2]? = some 'f') := by
  cases interacts with
  | click keyword begins _ _ =>
    exact .inl ⟨rfl, third_of_begins begins ⟨by decide, by decide⟩ (by decide)⟩
  | fill keyword value begins _ _ =>
    exact .inr ⟨rfl, third_of_begins begins ⟨by decide, by decide⟩ (by decide)⟩

/-- Steps that read alike do the same thing. -/
theorem action_eq (interacts : s.Interacts) (interacts' : t.Interacts)
    (alike : t.readsLike s = true) : t.action = s.action := by
  rw [Step.readsLike_iff] at alike
  rcases interacts.third with ⟨acts, letter⟩ | ⟨acts, letter⟩
  · rcases interacts'.third with ⟨acts', letter'⟩ | ⟨acts', letter'⟩
    · rw [acts, acts']
    · rw [alike, letter] at letter'
      exact absurd letter' (by decide)
  · rcases interacts'.third with ⟨acts', letter'⟩ | ⟨acts', letter'⟩
    · rw [alike, letter] at letter'
      exact absurd letter' (by decide)
    · rw [acts, acts']

/-- The opening step reads like no click and no fill. -/
theorem opening_not_readsLike (interacts : s.Interacts) (url : Option String) :
    (Step.navigate "I am on the application" url).readsLike s = false := by
  rw [← Bool.not_eq_true, Step.readsLike_iff]
  intro same
  have opening :
      (singleLineChars (Step.navigate "I am on the application" url).text.toList)[2]? =
        some 'a' := by
    change (singleLineChars "I am on the application".toList)[2]? = some 'a'
    decide +kernel
  rw [same] at opening
  rcases interacts.third with ⟨_, letter⟩ | ⟨_, letter⟩
  · rw [letter] at opening
    exact absurd opening (by decide)
  · rw [letter] at opening
    exact absurd opening (by decide)

/-- **Clicks and fills that read alike make one call exactly when locator and value agree.** -/
theorem pageCall?_eq_iff (interacts : s.Interacts) (interacts' : t.Interacts)
    (alike : t.readsLike s = true) :
    t.pageCall? = s.pageCall? ↔ t.locator = s.locator ∧ t.value = s.value := by
  have acts := interacts.action_eq interacts' alike
  cases interacts with
  | click keyword _ _ _ =>
    cases interacts' with
    | click keyword' _ _ _ => simp [Step.pageCall?, Step.click]
    | fill keyword' value' _ _ _ => cases acts
  | fill keyword value _ _ _ =>
    cases interacts' with
    | click keyword' _ _ _ => cases acts
    | fill keyword' value' _ _ _ => simp [Step.pageCall?, Step.fill]

/-- On one line, a text without line breaks is itself. -/
theorem singleLine_eq_self (interacts : s.Interacts) (line : OnOneLine s.text.toList) :
    singleLineChars s.text.toList = s.text.toList :=
  singleLineChars_eq_self interacts.visible.1 interacts.visible.2 line

end Step.Interacts

namespace Plan.Interactive

variable {p : Plan} {url : Option String} {rest : List Step} {s : Step}

/-- A click or fill of the plan is one of the steps behind the opening. -/
theorem mem_rest (interactive : p.Interactive url rest) (member : s ∈ p.steps)
    (acts : s.action = some .click ∨ s.action = some .fill) : s ∈ rest := by
  rw [interactive.steps] at member
  rcases List.mem_cons.mp member with rfl | later
  · rcases acts with click | fill
    · cases click
    · cases fill
  · exact later

/-- The first step that reads like a click or fill is one of the steps behind the opening. -/
theorem first_mem_rest (interactive : p.Interactive url rest) (interacts : s.Interacts) {t : Step}
    (found : p.steps.find? (fun t => t.readsLike s) = some t) : t ∈ rest := by
  have member := List.mem_of_find?_eq_some found
  rw [interactive.steps] at member
  rcases List.mem_cons.mp member with rfl | later
  · have alike := List.find?_some found
    simp only [interacts.opening_not_readsLike] at alike
    cases alike
  · exact later

end Plan.Interactive

/-- **The test makes the call of a step; its binding makes the call of the first step that reads
like it.** They agree exactly when that step has the same locator and the same value. They agree if
it has the same text, and so in every plan whose texts have no line break. -/
theorem binding_agrees_iff {p : Plan} (enacted : Enacted p) {i : Nat} {s : Step}
    (listed : p.steps[i]? = some s) (acts : s.action = some .click ∨ s.action = some .fill) :
    let names := ArtifactNames.ofPlan p
    ∃ v w t, p.stepViews[i]? = some v ∧
      (firstViews [] p.stepViews).filter (fun u => u.pattern == v.pattern) = [w] ∧
      w.bindingLines names <:+: bindingsLines p ∧
      v.commentLine :: v.testBody names <:+: testLines p ∧
      p.steps.find? (fun t => t.readsLike s) = some t ∧
      (StepView.CallsAlike names w v ↔ t.locator = s.locator ∧ t.value = s.value) ∧
      (t.text = s.text → StepView.CallsAlike names w v) ∧
      ((∀ u ∈ p.steps, OnOneLine u.text.toList) → StepView.CallsAlike names w v) := by
  intro names
  obtain ⟨url, rest, interactive⟩ := enacted.interactive
  obtain ⟨v, w, t, viewed, showsV, sole, found, showsW⟩ := binding_of_step listed
  have memberS := interactive.mem_rest (List.mem_of_getElem? listed) acts
  have interactsS := interactive.each s memberS
  have memberT := interactive.first_mem_rest interactsS found
  have interactsT := interactive.each t memberT
  have alike : t.readsLike s = true := List.find?_some (p := fun u : Step => u.readsLike s) found
  obtain ⟨c, callsS, validC⟩ := interactsS.exists_pageCall
  obtain ⟨d, callsT, validD⟩ := interactsT.exists_pageCall
  have agree : StepView.CallsAlike names w v ↔ t.pageCall? = s.pageCall? := by
    rw [StepView.callsAlike_iff names showsW showsV callsT callsS validD validC, callsT, callsS,
      Option.some.injEq]
  have sameText : t.text = s.text → StepView.CallsAlike names w v := fun same =>
    agree.mpr (interactive.determined t memberT s memberS same)
  refine ⟨v, w, t, viewed, sole, ?bound, ?tested, found, ?agrees, sameText, ?line⟩
  case bound =>
    have bound : w ∈ firstViews [] p.stepViews :=
      (List.mem_filter.mp (sole ▸ List.mem_singleton_self w)).1
    have listedLines := List.mem_map_of_mem (f := StepView.bindingLines names) bound
    exact (List.infix_of_mem_flatten listedLines).trans (List.infix_append _ _ _)
  case tested =>
    have shown : v ∈ p.stepViews := List.mem_of_getElem? viewed
    have listedLines :=
      List.mem_map_of_mem (f := fun u => u.commentLine :: StepView.testBody names u) shown
    exact (List.infix_of_mem_flatten listedLines).trans (List.infix_append _ _ _)
  case agrees => rw [agree, interactsS.pageCall?_eq_iff interactsT alike]
  case line =>
    intro lines
    refine sameText (String.toList_inj.mp ?_)
    have lineT := lines t (List.mem_of_find?_eq_some found)
    have lineS := lines s (List.mem_of_getElem? listed)
    rw [Step.readsLike_iff, interactsT.singleLine_eq_self lineT,
      interactsS.singleLine_eq_self lineS] at alike
    exact alike

/-- A screenshot with two buttons whose labels differ in a line break: the binding of the second
one's step clicks the first one. -/
theorem binding_agrees_iff_buttons :
    ∃ p s v w, Enacted p ∧
      Screenshot.plan? "Cart" "cart.png" [⟨"Add\nitem", .button⟩, ⟨"Add item", .button⟩] =
        some p ∧
      p.steps[2]? = some s ∧ s.action = some .click ∧ s.locator = some "additem2" ∧
      p.stepViews[2]? = some v ∧
      (firstViews [] p.stepViews).filter (fun u => u.pattern == v.pattern) = [w] ∧
      ¬ StepView.CallsAlike (ArtifactNames.ofPlan p) w v := by
  let first : Step := .click .when "I click the 'Add\nitem' button" "additem"
  let second : Step := .click .and "I click the 'Add item' button" "additem2"
  let p : Plan :=
    { Plan.named "Cart" "A scenario from image cart.png" with
      locators := [⟨"additem", "getByRole('button', \x7b name: 'Add\\nitem' \x7d)", none, none⟩,
        ⟨"additem2", "getByRole('button', \x7b name: 'Add item' \x7d)", none, none⟩]
      steps := [.navigate "I am on the application" none, first, second] }
  have made : Screenshot.plan? "Cart" "cart.png"
      [⟨"Add\nitem", .button⟩, ⟨"Add item", .button⟩] = some p := by decide +kernel
  have enacted : Enacted p := .screenshot _ _ _ p made
  have listed : p.steps[2]? = some second := rfl
  obtain ⟨v, w, t, viewed, sole, _, _, found, agree, _⟩ :=
    binding_agrees_iff enacted listed (.inl rfl)
  have earlier : p.steps.find? (fun t => t.readsLike second) = some first := by decide +kernel
  obtain rfl := Option.some.inj (found.symm.trans earlier)
  refine ⟨p, second, v, w, enacted, made, listed, rfl, rfl, viewed, sole, ?_⟩
  rw [agree]
  decide

/-- A recorded field that was filled with two lines and then with the same words on one line: the
binding of the second step types the two lines. -/
theorem binding_disagrees :
    let fill (value : String) : Session.Call :=
      .apply ⟨.fill, "#note", some "Note", none, none, some value⟩
    let p := ((Session.new "http://shop.example/" (some "Notes")).after
      [.begin none, fill "two\nlines", fill "two lines"]).plan
    let names := ArtifactNames.ofPlan p
    ∃ s v w, p.steps[2]? = some s ∧ s.action = some .fill ∧ p.stepViews[2]? = some v ∧
      (firstViews [] p.stepViews).filter (fun u => u.pattern == v.pattern) = [w] ∧
      w.bindingBody names = ["  await this.notesPage.note.fill('two\\nlines');"] ∧
      v.testBody names = ["    await notesPage.note.fill('two lines');"] ∧
      ¬ StepView.CallsAlike names w v := by
  intro fill p names
  let first : Step := .fill .when "I fill the 'Note' field with 'two\nlines'" "note" "two\nlines"
  let second : Step := .fill .and "I fill the 'Note' field with 'two lines'" "note" "two lines"
  refine ⟨second, .ofStep .when second, .ofStep .given first, by decide +kernel, rfl,
    by decide +kernel, by decide +kernel, by decide +kernel, by decide +kernel, ?_⟩
  rw [StepView.callsAlike_iff names ⟨_, rfl⟩ ⟨_, rfl⟩ (s := second) (t := first) rfl rfl
    (by decide) (by decide)]
  decide

end TestPlanner
