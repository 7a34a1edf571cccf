import TestPlanner.Artifact.Bindings
import TestPlanner.Proofs.Text.Quotation
import Mathlib.Data.List.Forall2

/-!
# Steps and their bindings

Each step of a plan has one view (`stepViewsAfter_shows`). The bindings keep the first view of every
pattern, so a pattern that occurs has one binding (`filter_firstViews`). Since a pattern tells
its one-line text, that binding is made for the first step whose text reads the same on one line
(`binding_of_step`).
-/

set_option autoImplicit false

namespace TestPlanner

/-- A view of a step, whatever was bound before it. -/
def StepView.Shows (v : StepView) (s : Step) : Prop :=
  ∃ before, v = .ofStep before s

/-- Whether two steps read the same on one line. -/
def Step.readsLike (s t : Step) : Bool :=
  singleLineChars s.text.toList == singleLineChars t.text.toList

theorem Step.readsLike_iff {s t : Step} :
    s.readsLike t = true ↔ singleLineChars s.text.toList = singleLineChars t.text.toList :=
  beq_iff_eq

/-- Every step has its view, in order. -/
theorem stepViewsAfter_shows (before : Keyword) (steps : List Step) :
    List.Forall₂ (fun s v => StepView.Shows v s) steps (stepViewsAfter before steps) := by
  induction steps generalizing before with
  | nil => exact .nil
  | cons s steps ih => exact .cons ⟨before, rfl⟩ (ih _)

/-- Two views have one pattern exactly when their steps read the same on one line. -/
theorem StepView.Shows.pattern_beq {v w : StepView} {s t : Step} (shows : v.Shows s)
    (shows' : w.Shows t) : (v.pattern == w.pattern) = s.readsLike t := by
  obtain ⟨_, rfl⟩ := shows
  obtain ⟨_, rfl⟩ := shows'
  rw [Bool.eq_iff_iff, Step.readsLike_iff, beq_iff_eq]
  simp only [ofStep, String.ofList_inj]
  exact ⟨patternChars_inj, fun same => by rw [same]⟩

/-- **A pattern has the binding of its first view, and no other.** -/
theorem filter_firstViews (seen : List String) (views : List StepView) (pattern : String) :
    (firstViews seen views).filter (fun v => v.pattern == pattern) =
      if pattern ∈ seen then []
      else (views.find? fun v => v.pattern == pattern).toList := by
  induction views generalizing seen with
  | nil => simp [firstViews]
  | cons v views ih =>
    by_cases known : v.pattern ∈ seen
    · rw [firstViews, if_pos (List.contains_iff_mem.mpr known), ih]
      split
      next => rfl
      next new =>
        have other : (v.pattern == pattern) = false := by
          refine beq_eq_false_iff_ne.mpr ?_
          rintro rfl
          exact new known
        rw [List.find?_cons_of_neg (by simp [other])]
    · rw [firstViews, if_neg (mt List.contains_iff_mem.mp known)]
      by_cases same : v.pattern = pattern
      · subst same
        have own : (v.pattern == v.pattern) = true := beq_self_eq_true _
        rw [List.filter_cons_of_pos (by simp only [own]), ih, if_pos List.mem_cons_self,
          if_neg known, List.find?_cons_of_pos (by simp only [own]), Option.toList_some]
      · have other : (v.pattern == pattern) = false := beq_eq_false_iff_ne.mpr same
        rw [List.filter_cons_of_neg (by simp [other]), ih,
          List.find?_cons_of_neg (by simp [other])]
        simp only [List.mem_cons, Ne.symm same, false_or]

/-- Lists that correspond item by item are searched alike. -/
theorem find?_of_forall₂ {α β : Type} {r : α → β → Prop} {p : α → Bool} {q : β → Bool}
    (agree : ∀ x y, r x y → p x = q y) {xs : List α} {ys : List β}
    (each : List.Forall₂ r xs ys) {x : α} (found : xs.find? p = some x) :
    ∃ y, ys.find? q = some y ∧ r x y := by
  induction each with
  | nil => cases found
  | @cons x' y xs ys related _ ih =>
    rw [List.find?_cons, agree x' y related] at found
    rw [List.find?_cons]
    cases accepted : q y with
    | true =>
      rw [accepted] at found
      obtain rfl := Option.some.inj found
      exact ⟨y, rfl, related⟩
    | false =>
      rw [accepted] at found
      exact ih found

/-- Lists that correspond item by item correspond at every place. -/
theorem getElem?_of_forall₂ {α β : Type} {r : α → β → Prop} {xs : List α} {ys : List β}
    (each : List.Forall₂ r xs ys) {i : Nat} {x : α} (listed : xs[i]? = some x) :
    ∃ y, ys[i]? = some y ∧ r x y := by
  induction each generalizing i with
  | nil => cases listed
  | @cons x' y xs ys related _ ih =>
    cases i with
    | zero =>
      obtain rfl := Option.some.inj listed
      exact ⟨y, rfl, related⟩
    | succ i => exact ih listed

/-- **The binding of a step's pattern is the one for the first step that reads like it.** -/
theorem binding_of_step {p : Plan} {i : Nat} {s : Step} (listed : p.steps[i]? = some s) :
    ∃ v w t, p.stepViews[i]? = some v ∧ v.Shows s ∧
      (firstViews [] p.stepViews).filter (fun u => u.pattern == v.pattern) = [w] ∧
      p.steps.find? (fun t => t.readsLike s) = some t ∧ w.Shows t := by
  have views := stepViewsAfter_shows .given p.steps
  obtain ⟨v, viewed, shows⟩ := getElem?_of_forall₂ views listed
  have present : (p.steps.find? fun t => t.readsLike s).isSome = true :=
    List.find?_isSome.mpr ⟨s, List.mem_of_getElem? listed, Step.readsLike_iff.mpr rfl⟩
  obtain ⟨t, found⟩ := Option.isSome_iff_exists.mp present
  obtain ⟨w, first, shows'⟩ := find?_of_forall₂ (q := fun u => u.pattern == v.pattern)
    (fun t u related => (related.pattern_beq shows).symm) views found
  refine ⟨v, w, t, viewed, shows, ?_, found, shows'⟩
  rw [filter_firstViews, if_neg List.not_mem_nil, Plan.stepViews, first, Option.toList_some]

end TestPlanner
