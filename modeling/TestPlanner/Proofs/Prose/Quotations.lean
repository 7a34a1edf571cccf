import TestPlanner.Proofs.Prose.Elements
import TestPlanner.Proofs.Selector.NormalForm
import TestPlanner.Proofs.Text.Runs
import Mathlib.Data.List.Forall2

/-!
# Quotations and their locators

A quotation is a piece of text between two marks of one kind, double or single, that is not empty and
has no such mark inside (`Quotes`). The quotations of a text are found from left to right: each is
the first one that starts behind the one before (`HasQuotations`). So a mark inside a quotation of
the other kind opens nothing.

Every quotation has one locator, in order, numbered from one, behind the locators of the keyword
table. It looks for the quoted text without the marks of either kind, which is read back from its
selector (`quotation_kept_iff`). So the text is kept exactly if the quotation has no mark of the
other kind inside; an apostrophe between double marks is lost (`apostrophe_dropped`).
-/

set_option autoImplicit false

namespace TestPlanner.Prose

open Text

/-! ## Quotations -/

/-- The marks around a quotation. -/
def isQuoteMark (c : Char) : Bool := c == '"' || c == '\''

/-- A text starts with a piece in quotation marks. -/
def Quotes (s piece rest : List Char) : Prop :=
  ∃ mark, isQuoteMark mark = true ∧ piece ≠ [] ∧ mark ∉ piece ∧ s = mark :: (piece ++ mark :: rest)

/-- The quotations of a text from left to right. -/
inductive HasQuotations : List Char → List (List Char) → Prop where
  /-- there is none -/
  | none {s : List Char}
      (unquoted : ∀ left right, s = left ++ right → ∀ piece rest, ¬ Quotes right piece rest) :
      HasQuotations s []
  /-- the leftmost one, and those behind it -/
  | next {left right piece rest : List Char} {pieces : List (List Char)}
      (first : ∀ before between, left = before ++ between → between ≠ [] →
        ∀ piece rest, ¬ Quotes (between ++ right) piece rest)
      (here : Quotes right piece rest) (others : HasQuotations rest pieces) :
      HasQuotations (left ++ right) (piece :: pieces)

/-- The piece up to a mark is read where it stands. -/
theorem quotedPiece?_eq_some_iff {mark : Char} {s piece rest : List Char} :
    quotedPiece? mark s = some (piece, rest) ↔
      piece ≠ [] ∧ mark ∉ piece ∧ s = piece ++ mark :: rest := by
  have others : ∀ {t : List Char}, mark ∉ t ↔ ∀ c ∈ t, (c != mark) = true := by
    intro t
    simp only [bne_iff_ne]
    exact ⟨fun absent c member same => absent (same ▸ member), fun all member => all mark member rfl⟩
  rw [quotedPiece?]
  constructor
  · intro found
    have cut := List.takeWhile_append_dropWhile (p := (· != mark)) (l := s)
    split at found
    next d behind form =>
      split at found
      next => cases found
      next nonempty =>
        obtain ⟨rfl, rfl⟩ := Prod.mk.inj (Option.some.inj found)
        have stop : (d != mark) = false := by
          have ends := List.head?_dropWhile_not (· != mark) s
          rwa [form] at ends
        rw [form, bne_eq_false_iff_eq.mp stop] at cut
        exact ⟨by simpa using nonempty, others.mpr fun c member =>
          List.mem_takeWhile_imp (p := (· != mark)) member, cut.symm⟩
    next => cases found
  · rintro ⟨nonempty, absent, rfl⟩
    have all := others.mp absent
    have stop : ¬ (mark != mark) = true := by simp
    have front : (piece ++ mark :: rest).takeWhile (· != mark) = piece := by
      rw [List.takeWhile_append_of_pos all, List.takeWhile_cons_of_neg (p := (· != mark)) stop,
        List.append_nil]
    have behind : (piece ++ mark :: rest).dropWhile (· != mark) = mark :: rest := by
      rw [List.dropWhile_append_of_pos all, List.dropWhile_cons_of_neg (p := (· != mark)) stop]
    have open' : ¬ piece.isEmpty = true := by simpa using nonempty
    rw [front, behind]
    exact if_neg open'

/-- A quotation at the front is the first one. -/
theorem quotedPieces_of_quotes {s piece rest : List Char} (quotes : Quotes s piece rest) :
    quotedPieces s = piece :: quotedPieces rest := by
  obtain ⟨mark, isMark, nonempty, absent, rfl⟩ := quotes
  have found : quotedPiece? mark (piece ++ mark :: rest) = some (piece, rest) :=
    quotedPiece?_eq_some_iff.mpr ⟨nonempty, absent, rfl⟩
  rw [isQuoteMark] at isMark
  rw [quotedPieces, if_pos isMark]
  split
  next piece' rest' found' =>
    rw [found] at found'
    obtain ⟨rfl, rfl⟩ := Prod.mk.inj (Option.some.inj found')
    rfl
  next none =>
    rw [found] at none
    cases none

/-- A character where no quotation starts is passed over. -/
theorem quotedPieces_cons {c : Char} {s : List Char}
    (unquoted : ∀ piece rest, ¬ Quotes (c :: s) piece rest) :
    quotedPieces (c :: s) = quotedPieces s := by
  rw [quotedPieces]
  split
  next isMark =>
    split
    next piece rest found =>
      obtain ⟨nonempty, absent, rfl⟩ := quotedPiece?_eq_some_iff.mp found
      exact absurd ⟨c, isMark, nonempty, absent, rfl⟩ (unquoted piece rest)
    next => rfl
  next => rfl

theorem quotedPieces_append {left right : List Char}
    (unquoted : ∀ before between, left = before ++ between → between ≠ [] →
      ∀ piece rest, ¬ Quotes (between ++ right) piece rest) :
    quotedPieces (left ++ right) = quotedPieces right := by
  induction left with
  | nil => rfl
  | cons c left ih =>
    have here : ∀ piece rest, ¬ Quotes (c :: (left ++ right)) piece rest :=
      unquoted [] (c :: left) rfl (List.cons_ne_nil c left)
    rw [List.cons_append, quotedPieces_cons here]
    exact ih fun before between split =>
      unquoted (c :: before) between (by rw [split, List.cons_append])

theorem HasQuotations.eq_quotedPieces {s : List Char} {pieces : List (List Char)}
    (has : HasQuotations s pieces) : pieces = quotedPieces s := by
  induction has with
  | @none s unquoted =>
    have passed : quotedPieces (s ++ []) = quotedPieces [] := by
      apply quotedPieces_append
      intro before between split more
      rw [List.append_nil]
      exact unquoted before between split
    rw [List.append_nil] at passed
    rw [passed, quotedPieces]
  | next first here _ ih => rw [quotedPieces_append first, quotedPieces_of_quotes here, ih]

/-- Every text has its quotations. -/
theorem exists_hasQuotations (s : List Char) : ∃ pieces, HasQuotations s pieces := by
  induction length : s.length using Nat.strong_induction_on generalizing s with
  | _ n ih =>
    by_cases occurs : ∃ left right, s = left ++ right ∧ ∃ piece rest, Quotes right piece rest
    · obtain ⟨left, right, rfl, ⟨piece, rest, here⟩, first⟩ := exists_first_rest occurs
      have shorter : rest.length < n := by
        obtain ⟨mark, _, _, _, rfl⟩ := here
        rw [← length]
        simp only [List.length_append, List.length_cons]
        omega
      obtain ⟨pieces, others⟩ := ih rest.length shorter rest rfl
      refine ⟨piece :: pieces, .next (fun before between split more piece rest quotes => ?_) here
        others⟩
      exact first before between split more ⟨piece, rest, quotes⟩
    · exact ⟨[], .none fun left right split piece rest quotes =>
        occurs ⟨left, right, split, piece, rest, quotes⟩⟩

/-- **The quotations of a text are the pieces that are cut from it.** -/
theorem hasQuotations_iff {s : List Char} {pieces : List (List Char)} :
    HasQuotations s pieces ↔ pieces = quotedPieces s := by
  refine ⟨HasQuotations.eq_quotedPieces, ?_⟩
  rintro rfl
  obtain ⟨pieces, has⟩ := exists_hasQuotations s
  rwa [← has.eq_quotedPieces]

/-! ## Locators -/

/-- What is left of a quotation without quotation marks. -/
def withoutMarks (piece : List Char) : List Char := piece.filter fun c => !isQuoteMark c

/-- The locator of a quotation with its number. -/
structure LocatesQuotation (n : Nat) (piece : List Char) (l : Locator) : Prop where
  name : l.name = "textElement" ++ toString n
  kind : l.kind = some .text
  confidence : l.confidence = some .medium
  /-- the selector looks for the quoted text without quotation marks -/
  reads : LocatorExpression.ofText? l.selector =
    some (.byText (String.ofList (withoutMarks piece)))

/-- A lookup by text is its own normal form. -/
theorem normalize_text (text : String) :
    Selector.normalize (Selector.text text) = Selector.text text :=
  Selector.normalize_eq_self (Selector.isAccepted_call (by decide) text)
    (Selector.ends_call "getByText" text)

theorem locatesQuotation_normalize (n : Nat) (piece : List Char) :
    LocatesQuotation n piece (normalizeLocator (quotedLocator n piece)) := by
  have selector : (normalizeLocator (quotedLocator n piece)).selector =
      Selector.text (String.ofList (withoutMarks piece)) := by
    have clean : (piece.filter fun c => !(c == '"' || c == '\'')) = withoutMarks piece := rfl
    simp only [normalizeLocator, quotedLocator, normalize_text, clean]
  exact ⟨rfl, rfl, rfl, LocatorExpression.ofText?_eq_some_iff.mpr selector⟩

theorem forall₂_quotedLocators (n : Nat) (pieces : List (List Char)) :
    List.Forall₂ (fun quotation l => LocatesQuotation quotation.2 quotation.1 l)
      (pieces.zipIdx n) ((quotedLocators n pieces).map normalizeLocator) := by
  induction pieces generalizing n with
  | nil => exact .nil
  | cons piece pieces ih =>
    rw [List.zipIdx_cons]
    exact .cons (locatesQuotation_normalize n piece) (ih (n + 1))

/-- **A quotation is kept by its locator exactly if it has no quotation mark inside.** -/
theorem LocatesQuotation.keeps_iff {n : Nat} {piece : List Char} {l : Locator}
    (locates : LocatesQuotation n piece l) :
    LocatorExpression.ofText? l.selector = some (.byText (String.ofList piece)) ↔
      ∀ c ∈ piece, isQuoteMark c = false := by
  rw [locates.reads, Option.some.injEq, LocatorExpression.byText.injEq, String.ofList_inj,
    withoutMarks, List.filter_eq_self]
  simp only [Bool.not_eq_true']

/-- **A quotation reaches its locator unchanged exactly if it has no quotation mark inside.**

- The quotations of a text are settled by the text.
- Behind the locators of the keyword table, of which none has medium confidence, every quotation has
  one locator, in order and numbered from one.
- The selector of that locator looks for the quotation without the quotation marks inside, and so
  for the quotation itself exactly if there are none. -/
theorem quotation_kept_iff (text : List Char) :
    ∃ pieces locators,
      (∀ ps, HasQuotations text ps ↔ ps = pieces) ∧
      inferredLocators text = (keywordLocators text).map normalizeLocator ++ locators ∧
      (∀ l ∈ (keywordLocators text).map normalizeLocator, l.confidence = some .high) ∧
      List.Forall₂ (fun quotation l => LocatesQuotation quotation.2 quotation.1 l ∧
          (LocatorExpression.ofText? l.selector = some (.byText (String.ofList quotation.1)) ↔
            ∀ c ∈ quotation.1, isQuoteMark c = false))
        (pieces.zipIdx 1) locators := by
  refine ⟨quotedPieces text, (quotedLocators 1 (quotedPieces text)).map normalizeLocator,
    fun _ => hasQuotations_iff, ?_, ?_, ?_⟩
  · rw [inferredLocators, List.map_append]
  · intro l listed
    obtain ⟨own, fromTable, rfl⟩ := List.mem_map.mp listed
    obtain ⟨rule, _, rfl⟩ := List.mem_map.mp fromTable
    rfl
  · exact (forall₂_quotedLocators 1 (quotedPieces text)).imp
      fun _ _ locates => ⟨locates, locates.keeps_iff⟩

/-- An apostrophe between double marks is lost on the way to the locator. -/
theorem apostrophe_dropped :
    HasQuotations "Click \"it's\"".toList ["it's".toList] ∧
      inferredLocators "Click \"it's\"".toList =
        [⟨"textElement1", "getByText('its')", some .text, some .medium⟩] ∧
      LocatorExpression.ofText? "getByText('its')" = some (.byText "its") ∧
      LocatorExpression.ofText? "getByText('its')" ≠ some (.byText "it's") := by
  have pieces : quotedPieces "Click \"it's\"".toList = ["it's".toList] := by cbv
  have reads : LocatorExpression.ofText? "getByText('its')" = some (.byText "its") :=
    LocatorExpression.ofText?_eq_some_iff.mpr (by decide)
  refine ⟨hasQuotations_iff.mpr pieces.symm, ?_, reads, ?_⟩
  · rw [inferredLocators, pieces]
    decide +kernel
  · rw [reads]
    decide

end TestPlanner.Prose
