import TestPlanner.Proofs.Plan.OfRegistry
import TestPlanner.Recording.Session

/-!
# Runs of a recorded session

A session is driven by calls: its page is ready, or the user acted. Ready pages rename the feature
and the scenario and touch nothing else, so what a run leaves in the plan is decided by its
actions, in order.

**Names.** The registry of a session is that of a run of requests, one for each action
(`registry_after`), so the laws of such runs hold for every session.

**Steps.** An action adds a step or finds its step text present (`apply_cases`). The step texts of
a session are therefore those of its actions, each once, in the order of first occurrence
(`texts_after_new`), and every step acts on the locator that its selector has (`Located`). The plan
of a session is therefore well-formed at every moment (`wellFormed_after_new`).
-/

set_option autoImplicit false

namespace TestPlanner.Recording.Session

open Registry (Query)

/-- What drives a session: its page is ready, or the user acted. -/
inductive Call where
  | begin (title : Option String)
  | apply (a : UserAction)
  deriving DecidableEq, Repr

/-- The action of a call. -/
def Call.action? : Call → Option UserAction
  | .begin _ => none
  | .apply a => some a

/-- The session after a call. -/
def call (s : Session) : Call → Session
  | .begin title => s.begin title
  | .apply a => (s.apply a).2

/-- The session after calls, in order. -/
def after (s : Session) (calls : List Call) : Session := calls.foldl call s

/-- The actions among calls, in order. -/
def actionsOf (calls : List Call) : List UserAction := calls.filterMap Call.action?

/-- The request for the name of an action's element. -/
def query (a : UserAction) : Query := ⟨Selector.raw a.selector, caption a⟩

/-- The name of an action's element, and the registry with it. -/
def element (s : Session) (a : UserAction) : String × Registry :=
  s.registry.resolve (Selector.raw a.selector) (caption a)

/-! ## One call -/

@[simp] theorem registry_begin (s : Session) (title : Option String) :
    (s.begin title).registry = s.registry := by
  unfold begin
  dsimp only
  split <;> rfl

@[simp] theorem actions_begin (s : Session) (title : Option String) :
    (s.begin title).actions = s.actions := by
  unfold begin
  dsimp only
  split <;> rfl

@[simp] theorem start_begin (s : Session) (title : Option String) :
    (s.begin title).start = s.start := by
  unfold begin
  dsimp only
  split <;> rfl

@[simp] theorem text_actionStep (first : Bool) (locator : String) (a : UserAction) :
    (actionStep first locator a).text = stepText a := by
  unfold actionStep
  cases a.kind <;> rfl

@[simp] theorem locator_actionStep (first : Bool) (locator : String) (a : UserAction) :
    (actionStep first locator a).locator = some locator := by
  unfold actionStep
  cases a.kind <;> rfl

theorem keyword_actionStep (first : Bool) (locator : String) (a : UserAction) :
    (actionStep first locator a).keyword = if first then .when else .and := by
  unfold actionStep
  cases a.kind <;> rfl

/-- **What an action does.** It names its element. Then it finds its step text present and leaves
the steps alone, or it adds its step. -/
theorem apply_cases (s : Session) (a : UserAction) :
    (stepText a ∈ s.actions.map Step.text ∧
      s.apply a = (false, { s with registry := (s.element a).2 })) ∨
    (stepText a ∉ s.actions.map Step.text ∧
      s.apply a = (true, { s with
        registry := (s.element a).2
        actions := s.actions ++ [actionStep s.actions.isEmpty (s.element a).1 a] })) := by
  have present : (s.actions.any fun t => t.text == stepText a) = true ↔
      stepText a ∈ s.actions.map Step.text := by
    simp only [List.any_eq_true, beq_iff_eq, List.mem_map]
  unfold apply
  simp only [text_actionStep, ← element.eq_1]
  by_cases repeated : stepText a ∈ s.actions.map Step.text
  · refine .inl ⟨repeated, ?_⟩
    rw [if_pos (present.mpr repeated)]
  · refine .inr ⟨repeated, ?_⟩
    rw [if_neg (mt present.mp repeated)]

/-- An action adds a step exactly when its step text is new. -/
theorem apply_fst_eq_false_iff (s : Session) (a : UserAction) :
    (s.apply a).1 = false ↔ stepText a ∈ s.actions.map Step.text := by
  obtain ⟨repeated, step⟩ | ⟨new, step⟩ := s.apply_cases a
  · simp only [step, repeated]
  · simp only [step, new, Bool.true_eq_false]

/-- Whether it adds a step or not, an action names its element. -/
theorem registry_apply (s : Session) (a : UserAction) :
    (s.apply a).2.registry = (s.element a).2 := by
  obtain ⟨_, step⟩ | ⟨_, step⟩ := s.apply_cases a
  · rw [step]
  · rw [step]

/-! ## Runs -/

theorem after_append (s : Session) (calls more : List Call) :
    s.after (calls ++ more) = (s.after calls).after more :=
  List.foldl_append

theorem after_cons (s : Session) (c : Call) (calls : List Call) :
    s.after (c :: calls) = (s.call c).after calls := rfl

theorem call_begin (s : Session) (title : Option String) : s.call (.begin title) = s.begin title :=
  rfl

theorem call_apply (s : Session) (a : UserAction) : s.call (.apply a) = (s.apply a).2 := rfl

theorem actionsOf_concat (calls : List Call) (c : Call) :
    actionsOf (calls ++ [c]) = actionsOf calls ++ c.action?.toList := by
  rw [actionsOf, List.filterMap_append]
  cases c <;> rfl

theorem actionsOf_cons_apply (a : UserAction) (calls : List Call) :
    actionsOf (.apply a :: calls) = a :: actionsOf calls := rfl

/-- The registry of a session is that of the requests of its actions. -/
theorem registry_after (s : Session) (calls : List Call) :
    (s.after calls).registry = s.registry.after ((actionsOf calls).map query) := by
  induction calls generalizing s with
  | nil => rfl
  | cons c calls ih =>
    change ((s.call c).after calls).registry = _
    rw [ih]
    cases c with
    | begin title => rw [call, registry_begin]; rfl
    | apply a =>
      rw [call, registry_apply, actionsOf_cons_apply, List.map_cons, Registry.after_cons]
      simp only [element, query]

/-- The start address never changes. -/
theorem start_after (s : Session) (calls : List Call) : (s.after calls).start = s.start := by
  induction calls generalizing s with
  | nil => rfl
  | cons c calls ih =>
    change ((s.call c).after calls).start = _
    rw [ih]
    cases c with
    | begin title => rw [call, start_begin]
    | apply a =>
      obtain ⟨_, step⟩ | ⟨_, step⟩ := s.apply_cases a
      · rw [call, step]
      · rw [call, step]

/-- An action adds its step text if that is new. -/
theorem texts_apply (s : Session) (a : UserAction) :
    (s.apply a).2.actions.map Step.text =
      if stepText a ∈ s.actions.map Step.text then s.actions.map Step.text
      else s.actions.map Step.text ++ [stepText a] := by
  obtain ⟨repeated, step⟩ | ⟨new, step⟩ := s.apply_cases a
  · rw [if_pos repeated, step]
  · rw [if_neg new, step]
    simp only [List.map_append, List.map_cons, List.map_nil, text_actionStep]

theorem after_concat (s : Session) (calls : List Call) (c : Call) :
    s.after (calls ++ [c]) = (s.after calls).call c := by
  rw [after_append]
  rfl

/-- **The step texts of a session are those of its actions, each once, in the order of first
occurrence.** -/
theorem texts_after_new (start : String) (feature : Option String) (calls : List Call) :
    ((new start feature).after calls).actions.map Step.text =
      ((actionsOf calls).map stepText).eraseDups := by
  induction calls using List.reverseRecOn with
  | nil => rfl
  | append_singleton calls c ih =>
    rw [after_concat, actionsOf_concat, List.map_append]
    cases c with
    | begin title =>
      rw [call, actions_begin, ih, Call.action?, Option.toList_none, List.map_nil,
        List.append_nil]
    | apply a =>
      rw [call, texts_apply, ih, Call.action?, Option.toList_some, List.map_singleton,
        eraseDups_concat]
      simp only [List.mem_eraseDups]

/-- Every step of a session acts on the locator that its selector has. -/
def Located (s : Session) : Prop :=
  ∀ t ∈ s.actions, ∃ a first name,
    s.registry.get? (Selector.raw a.selector) = some name ∧ t = actionStep first name a

theorem located_new (start : String) (feature : Option String) : (new start feature).Located :=
  fun _ member => absurd member List.not_mem_nil

/-- A call keeps every step on the locator of its selector. -/
theorem Located.call {s : Session} (located : s.Located) (c : Call) : (s.call c).Located := by
  cases c with
  | begin title =>
    simp only [Located, Session.call, registry_begin, actions_begin]
    exact located
  | apply a =>
    have kept : ∀ t ∈ s.actions, ∃ b first name,
        (s.element a).2.get? (Selector.raw b.selector) = some name ∧
          t = actionStep first name b := by
      intro t member
      obtain ⟨b, first, name, found, form⟩ := located t member
      exact ⟨b, first, name, Registry.get?_resolve_of_get? _ _ found, form⟩
    obtain ⟨_, step⟩ | ⟨_, step⟩ := s.apply_cases a
    · simp only [Located, Session.call, step]
      exact kept
    · simp only [Located, Session.call, step]
      intro t member
      rcases List.mem_append.mp member with old | new
      · exact kept t old
      · exact ⟨a, _, _, Registry.get?_resolve _ _ _, List.mem_singleton.mp new⟩

theorem Located.after {s : Session} (located : s.Located) (calls : List Call) :
    (s.after calls).Located := by
  induction calls generalizing s with
  | nil => exact located
  | cons c calls ih => exact ih (located.call c)

/-- A session reached from a new one has a coherent registry. -/
theorem coherent_after_new (start : String) (feature : Option String) (calls : List Call) :
    ((new start feature).after calls).registry.Coherent := by
  rw [registry_after]
  exact Registry.coherent_empty.after _

/-- No two steps of a session read the same. -/
theorem texts_nodup_after_new (start : String) (feature : Option String) (calls : List Call) :
    (((new start feature).after calls).actions.map Step.text).Nodup := by
  rw [texts_after_new]
  exact nodup_eraseDups _

/-! ## The plan -/

/-- **The plan of a session is well-formed, whatever was called.** -/
theorem wellFormed_after_new (start : String) (feature : Option String) (calls : List Call) :
    ((new start feature).after calls).plan.WellFormed := by
  have located := (located_new start feature).after calls
  refine .of_registry (coherent_after_new start feature calls) rfl rfl rfl rfl ?_
  intro t member
  obtain ⟨a, first, name, found, rfl⟩ := located t member
  refine ⟨?_, _, name, found, locator_actionStep first name a⟩
  rw [keyword_actionStep]
  cases first <;> decide

end TestPlanner.Recording.Session
