import TestPlanner.Artifact.StepView
import TestPlanner.Proofs.Text.Words

/-!
# Texts on one line

The artifacts show a step text on one line. A text that begins and ends visibly and has no line
break is shown as it is (`singleLineChars_eq_self`), and a visible beginning without a line break
is always kept (`prefix_singleLineChars`). No line break is ever left
(`onOneLine_singleLineChars`). What may be lost is which line breaks a text had: texts
that differ in nothing else are shown alike.
-/

set_option autoImplicit false

namespace TestPlanner

open Text

/-- A text without line breaks. -/
def OnOneLine (s : List Char) : Prop := ∀ c ∈ s, isLineBreak c = false

instance (s : List Char) : Decidable (OnOneLine s) :=
  decidable_of_iff (s.any isLineBreak = false) (by simp [OnOneLine])

theorem onOneLine_append {s t : List Char} : OnOneLine (s ++ t) ↔ OnOneLine s ∧ OnOneLine t :=
  List.forall_mem_append

/-- **A visible beginning without a line break stays on the line.** -/
theorem prefix_singleLineChars {s : List Char} (visible : Visible s) (nonempty : s ≠ [])
    (line : OnOneLine s) (rest : List Char) : s <+: singleLineChars (s ++ rest) := by
  have plain : ∀ c ∈ s, (!isLineBreak c) = true := fun c member => by rw [line c member]; rfl
  obtain ⟨others, split⟩ := splitOnP_eq_cons isLineBreak (s ++ rest)
  rw [List.takeWhile_append_of_pos plain] at split
  rw [singleLineChars, nonblankPieces, split, List.map_cons, visible.trim_append nonempty,
    List.filter_cons_of_pos (by simp [nonempty])]
  exact (List.prefix_append _ _).trans (prefix_joinWith _ _ _)

/-- **A visible text without a line break is shown as it is.** -/
theorem singleLineChars_eq_self {s : List Char} (visible : Visible s) (nonempty : s ≠ [])
    (line : OnOneLine s) : singleLineChars s = s := by
  rw [singleLineChars, nonblankPieces, List.splitOnP_eq_singleton line, List.map_singleton,
    visible.trim_eq_self, List.filter_cons_of_pos (by simp [nonempty]), List.filter_nil,
    joinWith]

/-! ## No line breaks -/

/-- **A text on one line has no line break.** -/
theorem onOneLine_singleLineChars (s : List Char) : OnOneLine (singleLineChars s) := by
  intro c member
  rcases mem_joinWith member with space | ⟨piece, listed, own⟩
  · rw [List.mem_singleton.mp space]
    decide
  · obtain ⟨raw, split, rfl⟩ := List.mem_map.mp (List.mem_filter.mp listed).1
    exact not_of_mem_splitOnP split c (mem_of_mem_trim own)

end TestPlanner
