import TestPlanner.Artifact.Feature
import TestPlanner.Artifact.Test
import TestPlanner.Proofs.Artifact.OneLine
import TestPlanner.Proofs.Text.Quotation
import Mathlib.Data.List.Basic

/-!
# Artifacts as lines

Every artifact is put together from lines. If no line has a line feed of its own, the lines are read
back from the text (`linesOf_joinLines`). A step text on one line, a safe name and whatever is
escaped for a script literal have none, so the only parts of a script that may break its lines are
the names and selectors of locators.
-/

set_option autoImplicit false

namespace TestPlanner

open Text

/-- The lines of a text. -/
def linesOf (text : String) : List String := (text.toList.splitOn '\n').map String.ofList

/-- A text without a line feed. -/
def Unbroken (s : String) : Prop := '\n' ∉ s.toList

instance (s : String) : Decidable (Unbroken s) :=
  inferInstanceAs (Decidable (¬ '\n' ∈ s.toList))

/-- A text that is written out is taken by its characters, which is much faster than to decide
anything about the text itself. -/
theorem none_of_ofList {kind : Char → Bool} {chars : List Char} (none : chars.any kind = false) :
    ∀ c ∈ (String.ofList chars).toList, kind c = false := by
  rw [String.toList_ofList]
  intro c member
  exact Bool.eq_false_iff.mpr (List.any_eq_false.mp none c member)

theorem unbroken_ofList {chars : List Char} (plain : '\n' ∉ chars) :
    Unbroken (String.ofList chars) := by
  rwa [Unbroken, String.toList_ofList]

theorem unbroken_append {s t : String} : Unbroken (s ++ t) ↔ Unbroken s ∧ Unbroken t := by
  rw [Unbroken, String.toList_append, List.mem_append, not_or]
  exact Iff.rfl

/-- Where a line feed separates, the pieces of a text are those of its lines. -/
theorem splitOnP_joinLines {ends : Char → Bool} (feed : ends '\n' = true) {lines : List String}
    (nonempty : lines ≠ []) :
    (joinLines lines).toList.splitOnP ends =
      lines.flatMap fun line => line.toList.splitOnP ends := by
  have separator : "\n".toList = ['\n'] := by decide
  induction lines with
  | nil => exact absurd rfl nonempty
  | cons line lines ih =>
    cases lines with
    | nil => rw [joinLines, String.intercalate_singleton, List.flatMap_singleton]
    | cons next lines =>
      rw [joinLines, String.intercalate_cons_cons, ← joinLines, String.toList_append,
        String.toList_append, separator, List.append_assoc, List.singleton_append,
        List.splitOnP_append_cons _ _ feed, ih (List.cons_ne_nil _ _)]
      rfl

/-- The lines of joined texts are the lines of each. -/
theorem linesOf_joinLines_eq_flatMap {parts : List String} (nonempty : parts ≠ []) :
    linesOf (joinLines parts) = parts.flatMap linesOf := by
  have pieces : (joinLines parts).toList.splitOnP (· == '\n') =
      parts.flatMap fun part => part.toList.splitOnP (· == '\n') :=
    splitOnP_joinLines (by decide) nonempty
  rw [linesOf, List.splitOn_eq_splitOnP, pieces, List.map_flatMap]
  rfl

theorem linesOf_eq_singleton {line : String} (unbroken : Unbroken line) :
    linesOf line = [line] := by
  have free : ∀ c ∈ line.toList, (c == '\n') = false := by
    intro c member
    refine beq_eq_false_iff_ne.mpr ?_
    rintro rfl
    exact unbroken member
  rw [linesOf, List.splitOn_eq_splitOnP, List.splitOnP_eq_singleton free, List.map_singleton,
    String.ofList_toList]

/-- **Lines without line feeds are read back from their text.** -/
theorem linesOf_joinLines {lines : List String} (nonempty : lines ≠ [])
    (unbroken : ∀ line ∈ lines, Unbroken line) : linesOf (joinLines lines) = lines := by
  rw [linesOf_joinLines_eq_flatMap nonempty,
    List.flatMap_congr fun line listed => linesOf_eq_singleton (unbroken line listed),
    List.flatMap_singleton']

/-! ## Texts without line feeds -/

theorem Text.Quoted.onOneLine_encodeChar (c : Char) : OnOneLine (encodeChar c) := by
  unfold encodeChar
  split
  · decide
  split
  · decide
  split
  · decide
  split
  · decide
  next notFeed notReturn =>
    intro d member
    rw [List.mem_singleton.mp member, isLineBreak, Bool.or_eq_false_iff]
    exact ⟨Bool.eq_false_iff.mpr notReturn, Bool.eq_false_iff.mpr notFeed⟩

/-- What is escaped for a script literal has no line break. -/
theorem Text.Quoted.onOneLine_encode (s : List Char) : OnOneLine (encode s) := by
  intro d member
  obtain ⟨c, _, escaped⟩ := List.mem_flatMap.mp member
  exact onOneLine_encodeChar c d escaped

/-- What is escaped for a script literal has no line feed. -/
theorem Text.Quoted.feed_not_mem_encode (s : List Char) : '\n' ∉ encode s :=
  fun member => absurd (onOneLine_encode s _ member) (by decide)

theorem unbroken_escaped (s : String) : Unbroken (Quoted.escaped s) := by
  rw [Unbroken, Quoted.escaped, String.toList_ofList]
  exact Quoted.feed_not_mem_encode _

end TestPlanner
