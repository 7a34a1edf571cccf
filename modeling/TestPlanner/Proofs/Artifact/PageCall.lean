import TestPlanner.Artifact.Test
import TestPlanner.Proofs.Artifact.Views
import TestPlanner.Proofs.FirstOccurrence
import TestPlanner.Proofs.Naming.Identifier

/-!
# Calls on the page object

A step that clicks or fills is rendered as one call on a property of the page object: in the binding
on the page object of the world, in the test on the page object of the test. The call itself is one
text, from which it can be told (`PageCall.text_inj`), so a binding and a step of the test make one
call exactly when the steps behind them do (`StepView.callsAlike_iff`).
-/

set_option autoImplicit false

namespace TestPlanner

open Text

/-- A call on a located element of the page object. -/
inductive PageCall where
  | click (locator : String)
  | fill (locator value : String)
  deriving DecidableEq, Repr

namespace PageCall

/-- The element that a call acts on. -/
def locator : PageCall → String
  | .click l => l
  | .fill l _ => l

/-- What is done to the element. -/
def act : PageCall → String
  | .click _ => "click();"
  | .fill _ v => "fill(" ++ Quoted.literal v ++ ");"

/-- The call in a script, after the page object. -/
def text (c : PageCall) : String := c.locator ++ "." ++ c.act

/-- The statement that makes a call in a binding. -/
def bindingLine (names : ArtifactNames) (c : PageCall) : String :=
  "  await this." ++ names.pageInstance ++ "." ++ c.text

/-- The statement that makes a call in the test. -/
def testLine (names : ArtifactNames) (c : PageCall) : String :=
  "    await " ++ names.pageInstance ++ "." ++ c.text

theorem eq_of_act_eq {c d : PageCall} (locators : c.locator = d.locator) (acts : c.act = d.act) :
    c = d := by
  cases c with
  | click l =>
    cases d with
    | click l' => exact congrArg click locators
    | fill l' v' =>
      have first := congrArg (fun s => s.toList.head?) acts
      simp [act, String.toList_append] at first
  | fill l v =>
    cases d with
    | click l' =>
      have first := congrArg (fun s => s.toList.head?) acts
      simp [act, String.toList_append] at first
    | fill l' v' =>
      simp only [act, String.append_left_inj, String.append_right_inj] at acts
      exact congrArg₂ fill locators (Quoted.literal_inj acts)

/-- An identifier has no point. -/
theorem point_not_mem {name : String} (valid : Naming.isIdentifier name = true) :
    '.' ∉ name.toList := by
  rw [Naming.isIdentifier] at valid
  cases chars : name.toList with
  | nil => exact List.not_mem_nil
  | cons c rest =>
    rw [chars, Naming.isIdentifierChars, Bool.and_eq_true] at valid
    intro member
    rcases List.mem_cons.mp member with rfl | later
    · exact absurd valid.1 (by decide)
    · exact absurd (List.all_eq_true.mp valid.2 '.' later) (by decide)

/-- **A call on an identifier can be told from its text.** -/
theorem text_inj {c d : PageCall} (validC : Naming.isIdentifier c.locator = true)
    (validD : Naming.isIdentifier d.locator = true) (same : c.text = d.text) : c = d := by
  have lists := congrArg String.toList same
  have point : ".".toList = ['.'] := by decide
  simp only [text, String.toList_append, point, List.append_assoc, List.singleton_append] at lists
  obtain ⟨locators, acts⟩ := cut_inj (point_not_mem validC) (point_not_mem validD) lists
  exact eq_of_act_eq (String.toList_inj.mp locators) (String.toList_inj.mp acts)

end PageCall

/-- The call of a step, if it makes one. -/
def Step.pageCall? (s : Step) : Option PageCall :=
  match s.action, s.locator with
  | some .click, some locator => some (.click locator)
  | some .fill, some locator => some (.fill locator (s.value.getD ""))
  | _, _ => none

/-- A step that makes a call clicks or fills the element of the call. -/
theorem Step.pageCall?_cases {s : Step} {c : PageCall} (calls : s.pageCall? = some c) :
    (∃ name, s.action = some .click ∧ s.locator = some name ∧ c = .click name) ∨
    (∃ name, s.action = some .fill ∧ s.locator = some name ∧
      c = .fill name (s.value.getD "")) := by
  unfold pageCall? at calls
  split at calls
  next name click acts => exact .inl ⟨name, click, acts, (Option.some.inj calls).symm⟩
  next name fill acts => exact .inr ⟨name, fill, acts, (Option.some.inj calls).symm⟩
  next => cases calls

namespace StepView

variable {v w : StepView} {s t : Step} (names : ArtifactNames)

/-- A binding and a step of the test make the same call on the page object. -/
def CallsAlike (binding step : StepView) : Prop :=
  ∃ c : PageCall, binding.bindingBody names = [c.bindingLine names] ∧
    step.testBody names = [c.testLine names]

theorem escaped_value (value : Option String) :
    (value.map Quoted.escaped).getD "" = Quoted.escaped (value.getD "") := by
  cases value with
  | none => decide
  | some _ => rfl

/-- **A binding makes the call of its step.** -/
theorem Shows.bindingBody {c : PageCall} (shows : v.Shows s) (calls : s.pageCall? = some c) :
    v.bindingBody names = [c.bindingLine names] := by
  obtain ⟨before, rfl⟩ := shows
  obtain ⟨name, click, acts, rfl⟩ | ⟨name, fill, acts, rfl⟩ := Step.pageCall?_cases calls
  · simp only [StepView.bindingBody, ofStep, click, acts, PageCall.bindingLine, PageCall.text,
      PageCall.locator, PageCall.act, String.append_assoc]
    rfl
  · simp only [StepView.bindingBody, ofStep, fill, acts, escaped_value, PageCall.bindingLine,
      PageCall.text, PageCall.locator, PageCall.act, Quoted.literal, String.append_assoc]
    rfl

/-- **The test makes the call of every step.** -/
theorem Shows.testBody {c : PageCall} (shows : v.Shows s) (calls : s.pageCall? = some c) :
    v.testBody names = [c.testLine names] := by
  obtain ⟨before, rfl⟩ := shows
  obtain ⟨name, click, acts, rfl⟩ | ⟨name, fill, acts, rfl⟩ := Step.pageCall?_cases calls
  · simp only [StepView.testBody, ofStep, click, acts, PageCall.testLine, PageCall.text,
      PageCall.locator, PageCall.act, String.append_assoc]
    rfl
  · simp only [StepView.testBody, ofStep, fill, acts, escaped_value, PageCall.testLine,
      PageCall.text, PageCall.locator, PageCall.act, Quoted.literal, String.append_assoc]
    rfl

/-- **A binding and a step of the test make one call exactly when their steps do.** -/
theorem callsAlike_iff {c d : PageCall} (binding : w.Shows t) (step : v.Shows s)
    (callsT : t.pageCall? = some d) (callsS : s.pageCall? = some c)
    (validD : Naming.isIdentifier d.locator = true)
    (validC : Naming.isIdentifier c.locator = true) : CallsAlike names w v ↔ d = c := by
  constructor
  · rintro ⟨e, bound, tested⟩
    rw [binding.bindingBody names callsT] at bound
    rw [step.testBody names callsS] at tested
    have textD := List.head_eq_of_cons_eq bound
    have textC := List.head_eq_of_cons_eq tested
    simp only [PageCall.bindingLine, PageCall.testLine, String.append_right_inj] at textD textC
    exact PageCall.text_inj validD validC (textD.trans textC.symm)
  · rintro rfl
    exact ⟨d, binding.bindingBody names callsT, step.testBody names callsS⟩

end StepView

end TestPlanner
