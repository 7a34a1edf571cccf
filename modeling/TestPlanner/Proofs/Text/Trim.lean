import TestPlanner.Text.Blank
import Mathlib.Data.List.DropRight

/-!
# Trimming

Trimming takes the blanks away on either side of a text. What is left neither begins nor ends with
a blank (`Visible`), and a visible text between blanks is what trimming leaves
(`Visible.trim_between`). So the two sides settle what is left, and it is found in no other way
(`trim_eq_iff`).

A word is cut off the front of a text where the text starts with it (`after?_eq_some_iff`).
-/

set_option autoImplicit false

namespace TestPlanner

open Text

/-- A text that neither begins nor ends with a blank. -/
structure Visible (s : List Char) : Prop where
  first : (s.head?.all fun c => !isBlank c) = true
  last : (s.getLast?.all fun c => !isBlank c) = true

instance (s : List Char) : Decidable (Visible s) :=
  decidable_of_iff
    ((s.head?.all fun c => !isBlank c) = true ∧ (s.getLast?.all fun c => !isBlank c) = true)
    ⟨fun ⟨first, last⟩ => ⟨first, last⟩, fun ⟨first, last⟩ => ⟨first, last⟩⟩

theorem trimStart_append {blanks : List Char} (blank : ∀ c ∈ blanks, isBlank c = true)
    (s : List Char) : trimStart (blanks ++ s) = trimStart s :=
  List.dropWhile_append_of_pos blank

theorem trimStart_cons {c : Char} (blank : isBlank c = true) (s : List Char) :
    trimStart (c :: s) = trimStart s :=
  List.dropWhile_cons_of_pos blank

theorem trimStart_cons_of_visible {c : Char} (shown : isBlank c = false) (s : List Char) :
    trimStart (c :: s) = c :: s :=
  List.dropWhile_cons_of_neg (Bool.eq_false_iff.mp shown)

theorem trimStart_eq_self {s : List Char} (starts : (s.head?.all fun c => !isBlank c) = true) :
    trimStart s = s := by
  cases s with
  | nil => rfl
  | cons c s => exact trimStart_cons_of_visible (by simpa using starts) s

theorem trimEnd_eq_nil {blanks : List Char} (blank : ∀ c ∈ blanks, isBlank c = true) :
    trimEnd blanks = [] :=
  List.rdropWhile_eq_nil_iff.mpr blank

/-- Trimming leaves nothing of blanks. -/
theorem trim_eq_nil {blanks : List Char} (blank : ∀ c ∈ blanks, isBlank c = true) :
    trim blanks = [] := by
  have skipped := trimStart_append blank []
  rw [List.append_nil] at skipped
  rw [trim, skipped]
  rfl

/-- Trimming the start leaves a text that begins visibly. -/
theorem head?_trimStart (s : List Char) :
    ((trimStart s).head?.all fun c => !isBlank c) = true := by
  have starts := List.head?_dropWhile_not isBlank s
  rw [trimStart]
  cases first : (s.dropWhile isBlank).head? with
  | none => rfl
  | some c =>
    rw [first] at starts
    rw [Option.all_some, starts]
    rfl

/-- Trimming the end leaves a text that ends visibly. -/
theorem getLast?_trimEnd (s : List Char) :
    ((trimEnd s).getLast?.all fun c => !isBlank c) = true := by
  rw [trimEnd, List.getLast?_reverse]
  exact head?_trimStart s.reverse

theorem prefix_trimEnd (s : List Char) : trimEnd s <+: s :=
  List.rdropWhile_prefix isBlank s

/-- **What trimming leaves is visible.** -/
theorem visible_trim (s : List Char) : Visible (trim s) := by
  refine ⟨?_, getLast?_trimEnd (trimStart s)⟩
  have starts := head?_trimStart s
  obtain ⟨rest, split⟩ := prefix_trimEnd (trimStart s)
  rw [← trim] at split
  cases left : trim s with
  | nil => rfl
  | cons c tail =>
    rw [← split, left] at starts
    exact starts

/-- Blanks stand on either side of what trimming leaves. -/
theorem exists_trim (s : List Char) :
    ∃ before after, s = before ++ (trim s ++ after) ∧
      (∀ c ∈ before, isBlank c = true) ∧ ∀ c ∈ after, isBlank c = true := by
  refine ⟨s.takeWhile isBlank, (trimStart s).rtakeWhile isBlank, ?_,
    fun c member => List.mem_takeWhile_imp member, fun c member => ?_⟩
  · have ends : trim s ++ (trimStart s).rtakeWhile isBlank = trimStart s :=
      List.rdropWhile_append_rtakeWhile
    rw [ends, trimStart, List.takeWhile_append_dropWhile]
  · exact List.mem_rtakeWhile_imp member

/-- Trimming leaves nothing exactly of blanks. -/
theorem trim_eq_nil_iff {s : List Char} : trim s = [] ↔ ∀ c ∈ s, isBlank c = true := by
  refine ⟨fun empty => ?_, trim_eq_nil⟩
  obtain ⟨before, after, split, blank, blank'⟩ := exists_trim s
  rw [empty, List.nil_append] at split
  rw [split]
  exact List.forall_mem_append.mpr ⟨blank, blank'⟩

/-- Trimming the start keeps what follows a visible character. -/
theorem trimStart_append_of_visible {left : List Char} (visible : ∃ x ∈ left, isBlank x = false)
    (rest : List Char) : trimStart (left ++ rest) = trimStart left ++ rest := by
  obtain ⟨x, member, shown⟩ := visible
  have kept : ¬ (left.dropWhile isBlank).isEmpty = true := by
    rw [List.isEmpty_iff, List.dropWhile_eq_nil_iff]
    intro blank
    rw [blank x member] at shown
    cases shown
  rw [trimStart, List.dropWhile_append, if_neg kept, trimStart]

/-- Trimming the end keeps what precedes a visible character. -/
theorem trimEnd_append_of_visible {right : List Char} (visible : ∃ x ∈ right, isBlank x = false)
    (front : List Char) : trimEnd (front ++ right) = front ++ trimEnd right := by
  have reversed : ∃ x ∈ right.reverse, isBlank x = false := by
    simpa only [List.mem_reverse] using visible
  have kept := trimStart_append_of_visible reversed front.reverse
  simp only [trimStart] at kept
  rw [trimEnd, List.reverse_append, kept, List.reverse_append, List.reverse_reverse, trimEnd]

/-- A blank at the end of a text, in front of blanks, is dropped with them. -/
theorem trimEnd_cons_eq_nil {c : Char} (blank : isBlank c = true) {s : List Char}
    (dropped : trimEnd s = []) : trimEnd (c :: s) = [] :=
  trimEnd_eq_nil (List.forall_mem_cons.mpr ⟨blank, List.rdropWhile_eq_nil_iff.mp dropped⟩)

/-- Whatever precedes something that is kept is kept. -/
theorem trimEnd_cons_of_ne_nil {s : List Char} (kept : trimEnd s ≠ []) (c : Char) :
    trimEnd (c :: s) = c :: trimEnd s := by
  have visible : ∃ x ∈ s, isBlank x = false := by
    by_contra none
    refine kept (trimEnd_eq_nil fun x member => ?_)
    by_contra shown
    exact none ⟨x, member, Bool.eq_false_iff.mpr shown⟩
  exact trimEnd_append_of_visible visible [c]

/-- A blank that is kept at the start follows a visible character. -/
theorem exists_visible_of_trimStart {s left right : List Char} {c : Char} (blank : isBlank c = true)
    (kept : trimStart s = left ++ c :: right) : ∃ x ∈ left, isBlank x = false := by
  have starts := List.head?_dropWhile_not isBlank s
  rw [← trimStart, kept] at starts
  cases left with
  | nil =>
    rw [List.nil_append, List.head?_cons] at starts
    exact absurd blank (by simpa using starts)
  | cons x left => exact ⟨x, List.mem_cons_self, by simpa using starts⟩

/-- A blank that is kept at the end precedes a visible character. -/
theorem exists_visible_of_trimEnd {s left right : List Char} {c : Char} (blank : isBlank c = true)
    (kept : trimEnd s = left ++ c :: right) : ∃ y ∈ right, isBlank y = false := by
  have reversed : trimStart s.reverse = right.reverse ++ c :: left.reverse := by
    rw [← List.reverse_inj, trimStart, ← trimEnd, kept]
    simp
  obtain ⟨y, member, shown⟩ := exists_visible_of_trimStart blank reversed
  exact ⟨y, List.mem_reverse.mp member, shown⟩

theorem mem_of_mem_trim {s : List Char} {c : Char} (member : c ∈ trim s) : c ∈ s :=
  (List.dropWhile_suffix _).subset ((prefix_trimEnd (trimStart s)).subset member)

/-- A text that is not all blanks. -/
def Shown (s : List Char) : Prop := ∃ c ∈ s, isBlank c = false

instance (s : List Char) : Decidable (Shown s) :=
  List.decidableBEx (fun c => isBlank c = false) s

theorem not_shown_iff {s : List Char} : ¬ Shown s ↔ ∀ c ∈ s, isBlank c = true := by
  simp [Shown]

/-- Trimming takes away nothing that shows. -/
@[simp]
theorem shown_trim_iff {s : List Char} : Shown (trim s) ↔ Shown s := by
  constructor
  · rintro ⟨c, member, visible⟩
    exact ⟨c, mem_of_mem_trim member, visible⟩
  · intro shown
    by_contra hidden
    rw [not_shown_iff] at hidden
    obtain ⟨before, after, split, blank, blank'⟩ := exists_trim s
    refine not_shown_iff.mpr ?_ shown
    rw [split]
    exact List.forall_mem_append.mpr ⟨blank, List.forall_mem_append.mpr ⟨hidden, blank'⟩⟩

/-- A trimmed text that is not empty shows something. -/
theorem shown_trim_of_ne_nil {s : List Char} (kept : trim s ≠ []) : Shown (trim s) := by
  rw [shown_trim_iff]
  by_contra hidden
  exact kept (trim_eq_nil (not_shown_iff.mp hidden))

namespace Visible

variable {s : List Char}

/-- Trimming the end keeps a visible text in front. -/
theorem trimEnd_append (visible : Visible s) (rest : List Char) :
    trimEnd (s ++ rest) = s ++ trimEnd rest := by
  have kept : s.reverse.dropWhile isBlank = s.reverse := by
    have ends := visible.last
    rw [← List.head?_reverse] at ends
    cases last : s.reverse with
    | nil => rfl
    | cons c before =>
      rw [last] at ends
      refine List.dropWhile_cons_of_neg ?_
      simpa using ends
  rw [trimEnd, trimEnd, List.reverse_append, List.dropWhile_append, kept]
  split
  next blank =>
    rw [List.isEmpty_iff.mp blank, List.reverse_nil, List.append_nil, List.reverse_reverse]
  next => rw [List.reverse_append, List.reverse_reverse]

/-- Trimming keeps a visible beginning. -/
theorem trim_append (visible : Visible s) (nonempty : s ≠ []) (rest : List Char) :
    trim (s ++ rest) = s ++ trimEnd rest := by
  have start : trimStart (s ++ rest) = s ++ rest := by
    cases s with
    | nil => exact absurd rfl nonempty
    | cons c s =>
      refine List.dropWhile_cons_of_neg ?_
      simpa using visible.first
  rw [trim, start, visible.trimEnd_append]

/-- Trimming leaves a visible text of what stands between blanks. -/
theorem trim_between (visible : Visible s) {before after : List Char}
    (blankBefore : ∀ c ∈ before, isBlank c = true) (blankAfter : ∀ c ∈ after, isBlank c = true) :
    trim (before ++ (s ++ after)) = s := by
  rw [trim, trimStart_append blankBefore, ← trim]
  by_cases empty : s = []
  · rw [empty, List.nil_append, trim_eq_nil blankAfter]
  · rw [visible.trim_append empty, trimEnd_eq_nil blankAfter, List.append_nil]

theorem trim_eq_self (visible : Visible s) : trim s = s := by
  have kept := visible.trim_between (List.forall_mem_nil _) (List.forall_mem_nil _)
  rwa [List.nil_append, List.append_nil] at kept

end Visible

/-- **Trimming leaves the visible text that stands between blanks,** and there is only one. -/
theorem trim_eq_iff {s core : List Char} :
    trim s = core ↔ Visible core ∧ ∃ before after, s = before ++ (core ++ after) ∧
      (∀ c ∈ before, isBlank c = true) ∧ ∀ c ∈ after, isBlank c = true := by
  constructor
  · rintro rfl
    exact ⟨visible_trim s, exists_trim s⟩
  · rintro ⟨visible, before, after, rfl, blankBefore, blankAfter⟩
    exact visible.trim_between blankBefore blankAfter

/-- **What follows a word is the rest of a text that starts with it.** -/
theorem Text.after?_eq_some_iff {word s rest : List Char} :
    after? word s = some rest ↔ s = word ++ rest := by
  induction word generalizing s with
  | nil => simp only [after?, Option.some.injEq, List.nil_append]
  | cons w word ih =>
    cases s with
    | nil => simp only [after?, reduceCtorEq, List.cons_append, List.nil_eq]
    | cons c s =>
      simp only [after?, List.cons_append, List.cons.injEq]
      split
      next same => simp only [ih, beq_iff_eq.mp same, true_and]
      next other =>
        simp only [reduceCtorEq, false_iff, not_and]
        rintro rfl
        exact absurd (beq_self_eq_true c) other

end TestPlanner
