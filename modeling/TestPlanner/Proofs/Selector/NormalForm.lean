import TestPlanner.Proofs.Artifact.Literals
import TestPlanner.Proofs.Text.Trim

/-!
# Normal forms of selectors

Any text may come in as a selector. What counts of it is what is left when the blanks around it are
dropped and then one qualifier, if there is one (`Leaves`); blanks and qualifiers further inside
stay. From that, one of three normal forms is made (`NormalForm`): a locator expression is kept, an
id becomes a lookup by test id, and anything else is quoted as a raw selector. Both lookups hold
their argument whole, so nothing of the selector is lost.

**Fixed points.** Every normal form is a locator expression and ends visibly
(`isAccepted_normalize`, `ends_normalize`), and a locator expression that ends visibly is its own
normal form (`normalize_eq_self`): it starts with the name of a method, so neither trimming nor the
qualifier can take anything away in front. Hence a second pass changes nothing, and the selectors
that a pass leaves alone are exactly these (`normal_forms`).
-/

set_option autoImplicit false

namespace TestPlanner.Selector

open Text

/-! ## Locator expressions -/

/-- The text is empty or its last character is visible. -/
def EndsVisibly (s : List Char) : Prop :=
  (s.getLast?.all fun c => !isBlank c) = true

theorem acceptedChars_iff {s : List Char} :
    acceptedChars s = true ↔ ∃ method ∈ methods, ∃ rest, s = method.toList ++ '(' :: rest := by
  simp only [acceptedChars, List.any_eq_true, List.isPrefixOf_iff_prefix, List.IsPrefix,
    List.append_assoc, List.singleton_append, @eq_comm _ s]

/-- **A selector is accepted exactly if it starts with a method and an opening parenthesis.** -/
theorem isAccepted_iff {selector : String} :
    isAccepted selector = true ↔
      ∃ method ∈ methods, ∃ rest, selector = method ++ ("(" ++ rest) := by
  have opening : "(".toList = ['('] := rfl
  rw [isAccepted, acceptedChars_iff]
  refine exists_congr fun method => and_congr_right fun _ => ⟨?_, ?_⟩
  · rintro ⟨rest, chars⟩
    refine ⟨String.ofList rest, String.toList_inj.mp ?_⟩
    simp only [chars, String.toList_append, opening, String.toList_ofList, List.singleton_append]
  · rintro ⟨rest, rfl⟩
    refine ⟨rest.toList, ?_⟩
    simp only [String.toList_append, opening, List.singleton_append]

/-- A call of one of the methods is accepted. -/
theorem isAccepted_call {method : String} (listed : method ∈ methods) (argument : String) :
    isAccepted (call method argument) = true := by
  refine isAccepted_iff.mpr ⟨method, listed, Quoted.literal argument ++ ")", ?_⟩
  simp only [call, String.append_assoc]

/-- Calls end visibly, with the closing parenthesis. -/
theorem ends_call (method argument : String) : EndsVisibly (call method argument).toList := by
  have last : ")".toList = [')'] := rfl
  rw [EndsVisibly, call, String.toList_append, last, List.getLast?_concat]
  rfl

/-- The methods start with letters that neither the qualifier nor an id starts with. -/
theorem methods_start : ∀ method ∈ methods, ∃ c rest, method.toList = c :: rest ∧
    isBlank c = false ∧ c ≠ 'p' ∧ c ≠ '#' := by
  intro method listed
  have starts : ∀ method ∈ methods, (method.toList.head?.any fun c =>
      !isBlank c && c != 'p' && c != '#') = true := by decide +kernel
  have start := starts method listed
  cases chars : method.toList with
  | nil =>
    rw [chars] at start
    cases start
  | cons c rest =>
    rw [chars] at start
    simp only [List.head?_cons, Option.any_some, Bool.and_eq_true, Bool.not_eq_true', bne_iff_ne]
      at start
    exact ⟨c, rest, rfl, start.1.1, start.1.2, start.2⟩

/-- An accepted selector starts with such a letter. -/
theorem exists_start_of_accepted {s : List Char} (accepted : acceptedChars s = true) :
    ∃ c rest, s = c :: rest ∧ isBlank c = false ∧ c ≠ 'p' ∧ c ≠ '#' := by
  obtain ⟨method, listed, rest, rfl⟩ := acceptedChars_iff.mp accepted
  obtain ⟨c, tail, chars, start⟩ := methods_start method listed
  exact ⟨c, tail ++ '(' :: rest, by rw [chars, List.cons_append], start⟩

/-! ## What counts of a selector -/

/-- What counts of a selector: the rest of its core behind a qualifier, or else the core, which
stands visibly between blanks. -/
def Leaves (s u : List Char) : Prop :=
  ∃ core, (Visible core ∧ ∃ before after, s = before ++ (core ++ after) ∧
      (∀ c ∈ before, isBlank c = true) ∧ ∀ c ∈ after, isBlank c = true) ∧
    (core = qualifier ++ u ∨ ¬ qualifier <+: core ∧ u = core)

/-- **One text counts of a selector,** the one that is made its normal form. -/
theorem leaves_iff {s u : List Char} : Leaves s u ↔ u = unqualified s := by
  simp only [Leaves, ← trim_eq_iff, exists_eq_left', unqualified]
  cases found : after? qualifier (trim s) with
  | some rest =>
    have split := after?_eq_some_iff.mp found
    have starts : qualifier <+: qualifier ++ rest := List.prefix_append _ _
    rw [split]
    simp only [List.append_cancel_left_eq, starts, not_true_eq_false, false_and, or_false,
      Option.getD_some, eq_comm]
  | none =>
    have other : ¬ qualifier <+: trim s := by
      rintro ⟨rest, split⟩
      rw [after?_eq_some_iff.mpr split.symm] at found
      cases found
    have unlike : trim s ≠ qualifier ++ u := by
      intro split
      exact other ⟨u, split.symm⟩
    simp only [unlike, other, not_false_eq_true, true_and, false_or, Option.getD_none]

/-- What counts of a selector ends visibly. -/
theorem ends_unqualified (s : List Char) : EndsVisibly (unqualified s) := by
  have ends : EndsVisibly (trim s) := (visible_trim s).last
  unfold unqualified
  dsimp only
  cases found : after? qualifier (trim s) with
  | none => exact ends
  | some rest =>
    rw [after?_eq_some_iff.mp found] at ends
    cases rest with
    | nil => rfl
    | cons c rest =>
      rwa [EndsVisibly, List.getLast?_append_of_ne_nil _ (List.cons_ne_nil c rest)] at ends

/-- A locator expression that ends visibly counts whole. -/
theorem unqualified_eq_self {s : List Char} (accepted : acceptedChars s = true)
    (ends : EndsVisibly s) : unqualified s = s := by
  obtain ⟨c, rest, rfl, visible, unlike, _⟩ := exists_start_of_accepted accepted
  have whole : Visible (c :: rest) := ⟨by simp only [List.head?_cons, Option.all_some, visible,
    Bool.not_false], ends⟩
  have bare : after? qualifier (c :: rest) = none := by
    have other : ('p' == c) = false := beq_eq_false_iff_ne.mpr (Ne.symm unlike)
    change (if ('p' == c) = true then _ else none) = none
    rw [other]
    rfl
  rw [unqualified, whole.trim_eq_self, bare, Option.getD_none]

/-! ## The normal form -/

/-- The normal form of what counts of a selector. -/
inductive NormalForm (u : String) : String → Prop where
  /-- a locator expression is kept -/
  | kept (accepted : isAccepted u = true) : NormalForm u u
  /-- an id is looked up as a test id -/
  | byTestId {id e : String} (start : u = "#" ++ id)
      (reads : LocatorExpression.argument? "getByTestId" e = some id) : NormalForm u e
  /-- anything else is taken as a raw selector -/
  | bySelector {e : String} (refused : isAccepted u = false) (start : ¬ ['#'] <+: u.toList)
      (reads : LocatorExpression.argument? "locator" e = some u) : NormalForm u e

theorem normalForm_normalize (selector : String) :
    NormalForm (String.ofList (unqualified selector.toList)) (normalize selector) := by
  unfold normalize
  dsimp only
  generalize unqualified selector.toList = u
  by_cases accepted : acceptedChars u = true
  · rw [if_pos accepted]
    refine .kept ?_
    rwa [isAccepted, String.toList_ofList]
  · rw [if_neg accepted]
    split
    next id =>
      have start : String.ofList ('#' :: id) = "#" ++ String.ofList id := by
        rw [String.ofList_cons]
        rfl
      exact .byTestId start (LocatorExpression.argument?_eq_some_iff.mpr rfl)
    next other =>
      refine .bySelector ?_ ?_ (LocatorExpression.argument?_eq_some_iff.mpr rfl)
      · rw [isAccepted, String.toList_ofList]
        exact Bool.eq_false_iff.mpr accepted
      · rw [String.toList_ofList]
        rintro ⟨id, split⟩
        exact other id split.symm

namespace NormalForm

variable {u e : String}

/-- A normal form is a locator expression. -/
theorem isAccepted (form : NormalForm u e) : isAccepted e = true := by
  cases form with
  | kept accepted => exact accepted
  | byTestId _ reads =>
    rw [LocatorExpression.argument?_eq_some_iff.mp reads]
    exact isAccepted_call (by decide) _
  | bySelector _ _ reads =>
    rw [LocatorExpression.argument?_eq_some_iff.mp reads]
    exact isAccepted_call (by decide) _

/-- A normal form ends visibly if what it is made from does. -/
theorem ends (form : NormalForm u e) (ends : EndsVisibly u.toList) : EndsVisibly e.toList := by
  cases form with
  | kept _ => exact ends
  | byTestId _ reads =>
    rw [LocatorExpression.argument?_eq_some_iff.mp reads]
    exact ends_call _ _
  | bySelector _ _ reads =>
    rw [LocatorExpression.argument?_eq_some_iff.mp reads]
    exact ends_call _ _

end NormalForm

/-- **Every normal form is a locator expression.** -/
theorem isAccepted_normalize (selector : String) : isAccepted (normalize selector) = true :=
  (normalForm_normalize selector).isAccepted

/-- Every normal form ends visibly. -/
theorem ends_normalize (selector : String) : EndsVisibly (normalize selector).toList := by
  refine (normalForm_normalize selector).ends ?_
  rw [String.toList_ofList]
  exact ends_unqualified _

/-- **A locator expression that ends visibly is its own normal form.** -/
theorem normalize_eq_self {selector : String} (accepted : isAccepted selector = true)
    (ends : EndsVisibly selector.toList) : normalize selector = selector := by
  rw [isAccepted] at accepted
  rw [normalize, unqualified_eq_self accepted ends, if_pos accepted, String.ofList_toList]

/-- **Normal forms of selectors.**

- A normal form starts with a locator method and an opening parenthesis.
- Its own normal form is itself. The selectors with this property are the locator expressions that
  do not end in a blank.
- It is made from the one text that is left of the selector without the blanks around it and one
  qualifier: it is that text, or it holds the rest of it behind `#` as a test id, or all of it as a
  raw selector, each to be read back. -/
theorem normal_forms (selector : String) :
    (∃ method ∈ methods, ∃ rest, normalize selector = method ++ ("(" ++ rest)) ∧
    normalize (normalize selector) = normalize selector ∧
    (normalize selector = selector ↔
      isAccepted selector = true ∧ EndsVisibly selector.toList) ∧
    ∃ u, (∀ v, Leaves selector.toList v ↔ v = u) ∧
      NormalForm (String.ofList u) (normalize selector) := by
  refine ⟨isAccepted_iff.mp (isAccepted_normalize selector),
    normalize_eq_self (isAccepted_normalize selector) (ends_normalize selector), ⟨?_, ?_⟩,
    unqualified selector.toList, fun _ => leaves_iff, normalForm_normalize selector⟩
  · intro same
    have accepted := isAccepted_normalize selector
    have ends := ends_normalize selector
    rw [same] at accepted ends
    exact ⟨accepted, ends⟩
  · rintro ⟨accepted, ends⟩
    exact normalize_eq_self accepted ends

/-- One qualifier is dropped, whatever follows it. -/
example : normalize " page. #a'b " = "locator(' #a\\'b')" := by decide +kernel

end TestPlanner.Selector
