import TestPlanner.Proofs.FirstOccurrence
import TestPlanner.Recording.Session

/-!
# What a step text tells

The step text of an action is put together from the caption of its element and, for a click, from
what is clicked, or, for a fill, from the value typed. A click can be told from its text: caption
and target are determined by it (`stepText_eq_iff_of_click`). A fill can be told only up to where
its caption ends, since the apostrophes around caption and value may occur in them too
(`stepText_eq_iff_of_fill`); without apostrophes, its text determines both
(`caption_eq_of_stepText_eq`). A click and a fill never read the same.
-/

set_option autoImplicit false

namespace TestPlanner.Recording.Session

/-- What is clicked has one of three names. -/
theorem clickTarget_mem (a : UserAction) : clickTarget a ∈ ["link", "button", "element"] := by
  unfold clickTarget
  split
  · simp
  split
  · simp
  split
  · simp
  · simp

/-- Of the three names, none is the end of another one. -/
theorem clickTarget_eq_of_suffix {a b : UserAction}
    (suffix : (clickTarget a).toList <:+ (clickTarget b).toList) :
    clickTarget a = clickTarget b := by
  have apart : ∀ s ∈ ["link", "button", "element"], ∀ t ∈ ["link", "button", "element"],
      s.toList <:+ t.toList → s = t := by decide +kernel
  exact apart _ (clickTarget_mem a) _ (clickTarget_mem b) suffix

/-- The third character of a step text tells the kind of its action. -/
theorem kind_eq_of_stepText_eq {a b : UserAction} (same : stepText a = stepText b) :
    a.kind = b.kind := by
  have third := congrArg (fun s => s.toList[2]?) same
  unfold stepText at third
  cases kindA : a.kind <;> cases kindB : b.kind <;>
    simp [kindA, kindB, String.toList_append] at third ⊢

/-- **Two clicks read the same exactly when their captions and targets agree.** -/
theorem stepText_eq_iff_of_click {a b : UserAction} (clickA : a.kind = .click)
    (clickB : b.kind = .click) :
    stepText a = stepText b ↔ caption a = caption b ∧ clickTarget a = clickTarget b := by
  unfold stepText
  rw [clickA, clickB]
  constructor
  · intro same
    simp only [String.append_assoc, String.append_right_inj] at same
    have lists := congrArg String.toList same
    simp only [String.toList_append] at lists
    have endsA : (clickTarget a).toList <:+
        (caption a).toList ++ ("' ".toList ++ (clickTarget a).toList) :=
      ⟨_, List.append_assoc _ _ _⟩
    have endsB : (clickTarget b).toList <:+
        (caption b).toList ++ ("' ".toList ++ (clickTarget b).toList) :=
      ⟨_, List.append_assoc _ _ _⟩
    rw [lists] at endsA
    have target : clickTarget a = clickTarget b := by
      rcases List.suffix_or_suffix_of_suffix endsA endsB with suffix | suffix
      · exact clickTarget_eq_of_suffix suffix
      · exact (clickTarget_eq_of_suffix suffix).symm
    refine ⟨?_, target⟩
    rw [target] at same
    simpa only [← String.append_assoc, String.append_left_inj] using same
  · rintro ⟨captions, targets⟩
    rw [captions, targets]

/-- **Two fills read the same exactly when their captions and values do, with the words between
them.** -/
theorem stepText_eq_iff_of_fill {a b : UserAction} (fillA : a.kind = .fill)
    (fillB : b.kind = .fill) :
    stepText a = stepText b ↔
      caption a ++ "' field with '" ++ a.value.getD "" =
        caption b ++ "' field with '" ++ b.value.getD "" := by
  unfold stepText
  rw [fillA, fillB]
  simp only [String.append_assoc, String.append_right_inj]
  simp only [← String.append_assoc, String.append_left_inj]

/-- **A fill whose caption and value hold no apostrophe reads like no other caption and value.** -/
theorem caption_eq_of_stepText_eq {a b : UserAction} (fillA : a.kind = .fill)
    (fillB : b.kind = .fill) (captionFree : '\'' ∉ (caption a).toList)
    (valueFree : '\'' ∉ (a.value.getD "").toList) (same : stepText b = stepText a) :
    caption b = caption a ∧ b.value.getD "" = a.value.getD "" := by
  have lists := congrArg String.toList ((stepText_eq_iff_of_fill fillB fillA).mp same)
  simp only [String.toList_append, List.append_assoc] at lists
  have words : "' field with '".toList = '\'' :: " field with '".toList := by decide
  -- the words between hold two apostrophes, and so does the whole text of `a`
  have free : '\'' ∉ (caption b).toList := by
    have counts := congrArg (List.count '\'') lists
    simp only [List.count_append, List.count_eq_zero.mpr captionFree,
      List.count_eq_zero.mpr valueFree] at counts
    exact List.count_eq_zero.mp (by omega)
  rw [words, List.cons_append] at lists
  obtain ⟨captions, values⟩ := cut_inj free captionFree lists
  exact ⟨String.toList_inj.mp captions, String.toList_inj.mp (List.append_cancel_left values)⟩

end TestPlanner.Recording.Session
