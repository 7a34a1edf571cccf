import TestPlanner.Proofs.Recording.Run
import TestPlanner.Proofs.Recording.StepText
import TestPlanner.Proofs.Text.Quotation

/-!
# Repeated actions

A session drops an action when its step would read like one that is there already. What counts is
the text alone: two clicks on elements of one caption are recorded as one step even if their
selectors differ, and so are two fills whose captions and values make the same words
(`ReadAlike`). Dropping an action keeps the steps and the names of the plan. It still names the
element, so a selector that was not met before leaves a locator behind, on which no step acts
(`apply_eq_false_iff_readAlike`).

**Controls.** Reading alike is less than repeating an action (`Repeats`): `dropped_though_new` shows
dropped actions that repeat none, and a locator that one of them leaves behind.
-/

set_option autoImplicit false

namespace TestPlanner.Recording.Session

/-- Two actions whose steps read alike: clicks on the same target of the same caption, or fills
whose captions and values make the same words. -/
def ReadAlike (a b : UserAction) : Prop :=
  match a.kind, b.kind with
  | .click, .click => caption a = caption b ∧ clickTarget a = clickTarget b
  | .fill, .fill =>
    caption a ++ "' field with '" ++ a.value.getD "" =
      caption b ++ "' field with '" ++ b.value.getD ""
  | _, _ => False

theorem stepText_eq_iff_readAlike (a b : UserAction) : stepText a = stepText b ↔ ReadAlike a b := by
  unfold ReadAlike
  cases kindA : a.kind with
  | click =>
    cases kindB : b.kind with
    | click => exact stepText_eq_iff_of_click kindA kindB
    | fill => exact iff_of_false (mt kind_eq_of_stepText_eq (by rw [kindA, kindB]; decide)) id
  | fill =>
    cases kindB : b.kind with
    | click => exact iff_of_false (mt kind_eq_of_stepText_eq (by rw [kindA, kindB]; decide)) id
    | fill => exact stepText_eq_iff_of_fill kindA kindB

instance (a b : UserAction) : Decidable (ReadAlike a b) :=
  decidable_of_iff _ (stepText_eq_iff_readAlike a b)

/-- An action that does to the same element what another one did. -/
def Repeats (a b : UserAction) : Prop :=
  a.kind = b.kind ∧ a.selector = b.selector ∧ caption a = caption b ∧ a.value = b.value ∧
    clickTarget a = clickTarget b
  deriving Decidable

/-- A selector has a name exactly when an action on it was applied. -/
theorem mem_selectors_after_new (start : String) (feature : Option String) (calls : List Call)
    (selector : String) :
    Selector.raw selector ∈ ((new start feature).after calls).registry.selectors ↔
      ∃ b ∈ actionsOf calls, b.selector = selector := by
  have listed : ((new start feature).after calls).registry.selectors =
      (((actionsOf calls).map query).map Registry.Query.selector).eraseDups := by
    rw [registry_after]
    exact Registry.selectors_after_empty _
  rw [listed, List.mem_eraseDups, List.map_map, List.mem_map]
  constructor
  · rintro ⟨b, member, same⟩
    exact ⟨b, member, Selector.raw_inj same⟩
  · rintro ⟨b, member, rfl⟩
    exact ⟨b, member, rfl⟩

/-- A dropped action changes at most the registry. -/
theorem apply_snd_of_dropped {s : Session} {a : UserAction} (dropped : (s.apply a).1 = false) :
    (s.apply a).2 = { s with registry := (s.element a).2 } := by
  obtain ⟨_, step⟩ | ⟨_, step⟩ := s.apply_cases a
  · rw [step]
  · rw [step] at dropped
    cases dropped

/-- **Which actions are dropped, and what is left of them.** An action is dropped exactly when an
applied action reads alike. If a fill without apostrophes is dropped, a fill of the same caption
with the same value was applied. A dropped action leaves the plan as it is if its selector was met
before, and otherwise adds one locator for the selector and nothing else. -/
theorem apply_eq_false_iff_readAlike (start : String) (feature : Option String)
    (calls : List Call) (a : UserAction) :
    let s := (new start feature).after calls
    ((s.apply a).1 = false ↔ ∃ b ∈ actionsOf calls, ReadAlike b a) ∧
    (∀ b ∈ actionsOf calls, ReadAlike b a → a.kind = .fill → '\'' ∉ (caption a).toList →
      '\'' ∉ (a.value.getD "").toList →
      caption b = caption a ∧ b.value.getD "" = a.value.getD "") ∧
    ((s.apply a).1 = false →
      ((∃ b ∈ actionsOf calls, b.selector = a.selector) ∧ (s.apply a).2.plan = s.plan) ∨
      ((¬ ∃ b ∈ actionsOf calls, b.selector = a.selector) ∧ ∃ name, (s.apply a).2.plan =
        { s.plan with
          locators := s.plan.locators ++ [⟨name, Selector.raw a.selector, none, none⟩] })) := by
  intro s
  refine ⟨?dropped, ?exact, ?left⟩
  case dropped =>
    rw [apply_fst_eq_false_iff, texts_after_new, List.mem_eraseDups, List.mem_map]
    exact exists_congr fun b => and_congr_right fun _ => stepText_eq_iff_readAlike b a
  case exact =>
    intro b _ alike fill captionFree valueFree
    have same := (stepText_eq_iff_readAlike b a).mpr alike
    have fillB : b.kind = .fill := (kind_eq_of_stepText_eq same).trans fill
    exact caption_eq_of_stepText_eq fill fillB captionFree valueFree same
  case left =>
    intro dropped
    rw [apply_snd_of_dropped dropped]
    obtain ⟨known, found, step⟩ | ⟨absent, name, _, step⟩ :=
      s.registry.resolve_cases (Selector.raw a.selector) (caption a)
    · refine .inl ⟨?_, ?_⟩
      · exact (mem_selectors_after_new start feature calls a.selector).mp
          (Registry.mem_selectors_of_get? found)
      · rw [element, step]
    · refine .inr ⟨?_, name, ?_⟩
      · rw [← mem_selectors_after_new start feature calls a.selector]
        exact Registry.get?_eq_none_iff.mp absent
      · rw [element, step]
        simp only [plan, Registry.locators, List.map_append, List.map_cons, List.map_nil]

/-- Dropped actions that repeat none: a click on another element of the same caption, a click with
a value, and a fill whose caption takes over a part of the value. The first changes the plan. -/
theorem dropped_though_new :
    let top : UserAction := ⟨.click, "#top", some "Add", some "button", none, none⟩
    let bottom : UserAction := ⟨.click, "#bottom", some "Add", some "button", none, none⟩
    let valued : UserAction := ⟨.click, "#top", some "Add", some "button", none, some "1"⟩
    let short : UserAction := ⟨.fill, "#q", some "Q", none, none, some "x' field with 'y"⟩
    let long : UserAction := ⟨.fill, "#q", some "Q' field with 'x", none, none, some "y"⟩
    let met (a : UserAction) := (new "http://shop.example/" none).after [.begin none, .apply a]
    (∀ pair ∈ [(top, bottom), (top, valued), (short, long)],
      ((met pair.1).apply pair.2).1 = false ∧ ¬ Repeats pair.2 pair.1) ∧
    ((met top).apply bottom).2.plan ≠ (met top).plan := by
  decide +kernel

end TestPlanner.Recording.Session
