import TestPlanner.Proofs.Text.Words
import TestPlanner.Text.Scan

/-!
# Rows

A row of a text is the text from the start of one of its lines on. A search that looks at the start
of every line goes through the rows (`searchLines_eq`), and what is on a line is the front of its row
(`splitOnP_eq_map_firstLine`). Both ways to look at a text, as one text with lines in it or line by
line, are thereby brought to the same list.

Rows that begin with a blank line may be left out: for the trimmed lines, which are blank there
(`nonblankLines_eq_map`), and for a search that passes over blanks, which finds the same in the row
below (`findSome?_rows`).
-/

set_option autoImplicit false

namespace TestPlanner.Text

universe u

variable {α : Type u}

/-- What follows each line feed of a text. -/
def rowsBelow : List Char → List (List Char)
  | [] => []
  | c :: s => if c == '\n' then s :: rowsBelow s else rowsBelow s

/-- A text from the start of each of its lines on. -/
def rows (s : List Char) : List (List Char) := s :: rowsBelow s

/-- The line with which a text begins. -/
def firstLine (s : List Char) : List Char := s.takeWhile (· != '\n')

theorem rowsBelow_feed (s : List Char) : rowsBelow ('\n' :: s) = rows s := rfl

theorem rowsBelow_cons {c : Char} (other : c ≠ '\n') (s : List Char) :
    rowsBelow (c :: s) = rowsBelow s := by
  rw [rowsBelow, if_neg (by simpa using other)]

theorem firstLine_cons {c : Char} (other : c ≠ '\n') (s : List Char) :
    firstLine (c :: s) = c :: firstLine s :=
  List.takeWhile_cons_of_pos (by simpa using other)

theorem not_mem_firstLine (s : List Char) : '\n' ∉ firstLine s :=
  fun member => absurd (List.mem_takeWhile_imp member) (by decide)

/-- A text goes on behind its first line with a line feed, or ends. -/
theorem exists_firstLine (s : List Char) :
    ∃ rest, s = firstLine s ++ rest ∧ (rest = [] ∨ rest.head? = some '\n') := by
  refine ⟨s.dropWhile (· != '\n'), List.takeWhile_append_dropWhile.symm, ?_⟩
  have ends := List.head?_dropWhile_not (· != '\n') s
  cases rest : s.dropWhile (· != '\n') with
  | nil => exact .inl rfl
  | cons c rest =>
    rw [rest] at ends
    right
    simpa using ends

/-- A line is the first one of a text that goes on behind it with a line feed, or ends. -/
theorem firstLine_append {line rest : List Char} (unbroken : '\n' ∉ line)
    (ends : rest = [] ∨ rest.head? = some '\n') : firstLine (line ++ rest) = line := by
  have others : ∀ c ∈ line, (c != '\n') = true := by
    intro c member
    refine bne_iff_ne.mpr ?_
    rintro rfl
    exact unbroken member
  have stops : rest.takeWhile (· != '\n') = [] := by
    rcases ends with rfl | feed
    · rfl
    · obtain ⟨more, rfl⟩ := List.head?_eq_some_iff.mp feed
      rfl
  rw [firstLine, List.takeWhile_append_of_pos others, stops, List.append_nil]

/-! ## Rows are what is looked at -/

/-- **A search at the starts of lines goes through the rows.** -/
theorem searchLines_eq (recognise : List Char → Option α) (s : List Char) :
    searchLines recognise true s = (rows s).findSome? recognise := by
  -- within a line, only the rows below are left
  have both : searchLines recognise true s = (rows s).findSome? recognise ∧
      searchLines recognise false s = (rowsBelow s).findSome? recognise := by
    induction s with
    | nil => exact ⟨by rw [rows, rowsBelow, List.findSome?_singleton]; rfl, rfl⟩
    | cons c s ih =>
      have later : searchLines recognise (c == '\n') s =
          (rowsBelow (c :: s)).findSome? recognise := by
        by_cases feed : c = '\n'
        · rw [feed, rowsBelow_feed]
          exact ih.1
        · rw [rowsBelow_cons feed, beq_eq_false_iff_ne.mpr feed]
          exact ih.2
      constructor
      · rw [searchLines, if_pos rfl, later, rows, List.findSome?_cons]
        cases recognise (c :: s) <;> rfl
      · rw [searchLines, if_neg (by decide), later]
  exact both.1

/-- **The lines of a text are the fronts of its rows.** -/
theorem splitOnP_eq_map_firstLine (s : List Char) :
    s.splitOnP (· == '\n') = (rows s).map firstLine := by
  induction s with
  | nil => rfl
  | cons c s ih =>
    rw [List.splitOnP_cons_eq_if_modifyHead, ih]
    by_cases feed : c = '\n'
    · rw [feed]
      rfl
    · rw [if_neg (by simpa using feed), rows, rows, rowsBelow_cons feed, List.map_cons,
        List.map_cons, List.modifyHead_cons, firstLine_cons feed]

/-! ## Rows that show something -/

/-- The trimmed line with which a row begins. -/
def lineOf (row : List Char) : List Char := trim (firstLine row)

/-- A text from the start of each line that is not blank. -/
def visibleRows (s : List Char) : List (List Char) :=
  (rows s).filter fun row => !(lineOf row).isEmpty

theorem nonblankLines_eq_map (s : List Char) :
    nonblankLines s = (visibleRows s).map lineOf := by
  rw [nonblankLines, nonblankPieces, splitOnP_eq_map_firstLine, List.map_map, List.filter_map,
    visibleRows]
  rfl

/-- What passes over blanks finds nothing new in a row with a blank line. -/
theorem or_findSome?_rowsBelow {recognise : List Char → Option α} (nothing : recognise [] = none)
    (passes : ∀ c s, isBlank c = true → recognise (c :: s) = recognise s) {s : List Char}
    (blank : ∀ c ∈ firstLine s, isBlank c = true) :
    (recognise s).or ((rowsBelow s).findSome? recognise) =
      (rowsBelow s).findSome? recognise := by
  induction s with
  | nil => rw [nothing, Option.none_or]
  | cons c s ih =>
    by_cases feed : c = '\n'
    · rw [feed, passes '\n' s (by decide), rowsBelow_feed, rows, List.findSome?_cons]
      cases recognise s <;> rfl
    · rw [firstLine_cons feed] at blank
      obtain ⟨first, later⟩ := List.forall_mem_cons.mp blank
      rw [passes c s first, rowsBelow_cons feed, ih later]

/-- **A search that passes over blanks may leave out blank lines.** -/
theorem findSome?_rows {recognise : List Char → Option α} (nothing : recognise [] = none)
    (passes : ∀ c s, isBlank c = true → recognise (c :: s) = recognise s) (s : List Char) :
    (rows s).findSome? recognise = (visibleRows s).findSome? recognise := by
  -- the first row and those below, for the two ways in which a text goes on
  have front : ∀ s, (rowsBelow s).findSome? recognise =
      ((rowsBelow s).filter fun row => !(lineOf row).isEmpty).findSome? recognise →
      (rows s).findSome? recognise = (visibleRows s).findSome? recognise := by
    intro s below
    have whole : (rows s).findSome? recognise =
        (recognise s).or ((rowsBelow s).findSome? recognise) := by
      rw [rows, List.findSome?_cons]
      cases recognise s <;> rfl
    by_cases empty : lineOf s = []
    · have blank : ∀ c ∈ firstLine s, isBlank c = true := trim_eq_nil_iff.mp empty
      rw [whole, or_findSome?_rowsBelow nothing passes blank, visibleRows, rows,
        List.filter_cons_of_neg (by simp [empty]), below]
    · rw [whole, below, visibleRows, rows, List.filter_cons_of_pos (by simp [empty]),
        List.findSome?_cons]
      cases recognise s <;> rfl
  refine front s ?_
  induction s with
  | nil => rfl
  | cons c s ih =>
    by_cases feed : c = '\n'
    · rw [feed, rowsBelow_feed]
      exact front s ih
    · rw [rowsBelow_cons feed]
      exact ih

end TestPlanner.Text
