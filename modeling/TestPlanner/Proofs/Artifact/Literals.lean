import TestPlanner.Proofs.Artifact.Script
import TestPlanner.Recording.Script

/-!
# Literals of generated scripts

Selectors, values and addresses stand in the generated scripts as single-quoted literals. A literal
is read up to its own closing quote, whatever stands behind it, and in one spelling only, so texts
cannot leave their literals (`Quoted.scan_eq_some_iff`).

**Locator expressions** are built from one or two such literals. The builder and its arguments are
read back from the expression, and nothing else reads as that expression
(`LocatorExpression.ofText?_eq_some_iff`); so different builders or arguments never make one
selector.

**The script of a recording** opens one address. Among its lines, those of the listener in the page
included, one statement does that, and its argument is the start address
(`openedAddresses_script`).
-/

set_option autoImplicit false

namespace TestPlanner

open Text

/-! ## Literals between words -/

/-- The text of the literal between two words, which are the whole line besides. -/
def literalBetween? (before after line : String) : Option String := do
  let s ← behind? before line.toList
  let (text, rest) ← Quoted.scan s
  if rest = after.toList then some (String.ofList text) else none

theorem literalBetween?_eq_some_iff {before after line text : String} :
    literalBetween? before after line = some text ↔
      line = before ++ (Quoted.literal text ++ after) := by
  constructor
  · intro read
    simp only [literalBetween?, Option.bind_eq_bind, Option.bind_eq_some_iff] at read
    obtain ⟨s, behind, ⟨body, rest⟩, scanned, made⟩ := read
    dsimp only at made
    split at made
    next last =>
      obtain rfl := Option.some.inj made
      rw [eq_of_behind? behind, Quoted.ofList_eq_of_scan scanned, last, String.ofList_toList]
    next => cases made
  · rintro rfl
    rw [literalBetween?, behind?_append]
    simp only [Option.bind_eq_bind, Option.bind_some, Quoted.scan_literal, if_true,
      String.ofList_toList]

theorem literalBetween?_eq_none {before after line : String}
    (other : behind? before line.toList = none) : literalBetween? before after line = none := by
  rw [literalBetween?, other]
  rfl

/-! ## Locator expressions -/

/-- A locator expression by its builder and the arguments. -/
inductive LocatorExpression where
  | byRole (role name : String)
  | byLabel (text : String)
  | byText (text : String)
  | bySelector (selector : String)
  deriving DecidableEq, Repr

namespace LocatorExpression

/-- The expression that is built. -/
def build : LocatorExpression → String
  | byRole role name => Selector.role role name
  | byLabel text => Selector.label text
  | byText text => Selector.text text
  | bySelector selector => Selector.raw selector

/-- The argument of a call of a method with one literal. -/
def argument? (method : String) : String → Option String := literalBetween? (method ++ "(") ")"

/-- The role and the name of a lookup by role. -/
def roleAndName? (line : String) : Option (String × String) := do
  let s ← behind? "getByRole(" line.toList
  let (role, rest) ← Quoted.scan s
  let name ← literalBetween? ", \x7b name: " " \x7d)" (String.ofList rest)
  some (String.ofList role, name)

/-- Reads an expression. -/
def ofText? (line : String) : Option LocatorExpression :=
  ((roleAndName? line).map fun arguments => byRole arguments.1 arguments.2).or
    (((argument? "getByLabel" line).map byLabel).or
      (((argument? "getByText" line).map byText).or ((argument? "locator" line).map bySelector)))

theorem argument?_eq_some_iff {method line argument : String} :
    argument? method line = some argument ↔ line = Selector.call method argument := by
  rw [argument?, literalBetween?_eq_some_iff, Selector.call]
  simp only [String.append_assoc]

/-- A call is no call of another method. -/
theorem argument?_call {method other argument : String}
    (clash : Clash (method ++ "(") (other ++ "(")) :
    argument? other (Selector.call method argument) = none := by
  rw [Selector.call, String.append_assoc]
  exact literalBetween?_eq_none (behind?_eq_none _ clash)

theorem roleAndName?_eq_some_iff {line role name : String} :
    roleAndName? line = some (role, name) ↔ line = Selector.role role name := by
  have form : Selector.role role name = "getByRole(" ++ (Quoted.literal role ++
      (", \x7b name: " ++ (Quoted.literal name ++ " \x7d)"))) := by
    simp only [Selector.role, String.append_assoc]
  rw [form]
  constructor
  · intro read
    simp only [roleAndName?, Option.bind_eq_bind, Option.bind_eq_some_iff] at read
    obtain ⟨s, behind, ⟨body, rest⟩, scanned, name', between, made⟩ := read
    obtain ⟨rfl, rfl⟩ := Prod.mk.inj (Option.some.inj made)
    rw [eq_of_behind? behind, Quoted.ofList_eq_of_scan scanned,
      literalBetween?_eq_some_iff.mp between]
  · rintro rfl
    rw [roleAndName?, behind?_append]
    simp only [Option.bind_eq_bind, Option.bind_some, Quoted.scan_literal, String.ofList_toList,
      literalBetween?_eq_some_iff.mpr rfl]

/-- A call with one literal is no lookup by role. -/
theorem roleAndName?_call {method argument : String} (clash : Clash (method ++ "(") "getByRole(") :
    roleAndName? (Selector.call method argument) = none := by
  rw [Selector.call, String.append_assoc, roleAndName?, behind?_eq_none _ clash]
  rfl

/-- **An expression is read back from its text, and no other text reads as it.** -/
theorem ofText?_eq_some_iff {line : String} {e : LocatorExpression} :
    ofText? line = some e ↔ line = e.build := by
  constructor
  · intro read
    simp only [ofText?, Option.or_eq_some_iff, Option.map_eq_some_iff] at read
    rcases read with ⟨⟨role, name⟩, found, rfl⟩ |
      ⟨_, ⟨text, found, rfl⟩ | ⟨_, ⟨text, found, rfl⟩ | ⟨_, selector, found, rfl⟩⟩⟩
    · exact roleAndName?_eq_some_iff.mp found
    · exact argument?_eq_some_iff.mp found
    · exact argument?_eq_some_iff.mp found
    · exact argument?_eq_some_iff.mp found
  · rintro rfl
    cases e with
    | byRole role name =>
      rw [ofText?, build, roleAndName?_eq_some_iff.mpr rfl]
      rfl
    | byLabel text =>
      rw [ofText?, build, Selector.label, roleAndName?_call (by decide),
        argument?_eq_some_iff.mpr rfl]
      rfl
    | byText text =>
      rw [ofText?, build, Selector.text, roleAndName?_call (by decide), argument?_call (by decide),
        argument?_eq_some_iff.mpr rfl]
      rfl
    | bySelector selector =>
      rw [ofText?, build, Selector.raw, roleAndName?_call (by decide), argument?_call (by decide),
        argument?_call (by decide), argument?_eq_some_iff.mpr rfl]
      rfl

/-- **Different builders or arguments make different expressions.** -/
theorem build_injective : Function.Injective build := by
  intro e e' same
  have back := ofText?_eq_some_iff.mpr same
  rw [ofText?_eq_some_iff.mpr rfl] at back
  exact Option.some.inj back

end LocatorExpression

/-! ## Literals on the lines of a text -/

/-- The literals between two words, over the lines of a text. -/
def literalsBetween (before after text : String) : List String :=
  (linesOf text).filterMap (literalBetween? before after)

section

variable {before after : String}

theorem literalsBetween_joinLines {parts : List String} (nonempty : parts ≠ []) :
    literalsBetween before after (joinLines parts) =
      parts.flatMap (literalsBetween before after) := by
  rw [literalsBetween, linesOf_joinLines_eq_flatMap nonempty, List.filterMap_flatMap]
  rfl

theorem literalsBetween_eq_nil {line : String} (unbroken : Unbroken line)
    (other : behind? before line.toList = none) : literalsBetween before after line = [] := by
  rw [literalsBetween, linesOf_eq_singleton unbroken,
    List.filterMap_cons_none (literalBetween?_eq_none other), List.filterMap_nil]

/-- A line that differs from a word before either of them ends: nothing behind it matters. -/
def Apart (word line : String) : Prop := Unbroken line ∧ Clash line word

theorem Apart.append {word line rest : String} (apart : Apart word line)
    (unbroken : Unbroken rest) : Apart word (line ++ rest) := by
  refine ⟨unbroken_append.mpr ⟨apart.1, unbroken⟩, fun same => apart.2 ?_⟩
  have shorter := congrArg (List.take line.toList.length) same
  rw [String.toList_append, List.length_append, List.take_take, List.take_take, Nat.min_comm,
    ← List.take_take, List.take_left] at shorter
  rw [shorter, Nat.min_eq_left (Nat.le_add_right _ _)]

theorem Apart.literalsBetween_eq_nil {line : String} (apart : Apart before line) :
    literalsBetween before after line = [] := by
  have other := behind?_eq_none "" apart.2
  rw [String.append_empty] at other
  exact TestPlanner.literalsBetween_eq_nil apart.1 other

/-- Joined lines apart from the first word give no literal. -/
theorem literalsBetween_joinLines_append {back : String} {lines : List String}
    (nonempty : lines ≠ []) (apart : ∀ line ∈ lines, Apart before line) (closed : Unbroken back) :
    literalsBetween before after (joinLines lines ++ back) = [] := by
  induction lines with
  | nil => exact absurd rfl nonempty
  | cons line lines ih =>
    have first := apart line List.mem_cons_self
    cases lines with
    | nil =>
      rw [joinLines, String.intercalate_singleton]
      exact (first.append closed).literalsBetween_eq_nil
    | cons next lines =>
      have split : joinLines (line :: next :: lines) ++ back =
          joinLines [line, joinLines (next :: lines) ++ back] := by
        simp only [joinLines, String.intercalate_cons_cons, String.intercalate_singleton,
          String.append_assoc]
      have later := ih (List.cons_ne_nil _ _) fun other listed =>
        apart other (List.mem_cons_of_mem line listed)
      rw [split, literalsBetween_joinLines (List.cons_ne_nil _ _), List.flatMap_cons,
        first.literalsBetween_eq_nil, List.flatMap_singleton, later, List.append_nil]

/-- Nor do they between two further texts on the lines at their ends. -/
theorem literalsBetween_framed {front back : String} {lines : List String} (nonempty : lines ≠ [])
    (apart : ∀ line ∈ lines, Apart before line) (opened : Apart before front)
    (closed : Unbroken back) :
    literalsBetween before after (front ++ joinLines lines ++ back) = [] := by
  cases lines with
  | nil => exact absurd rfl nonempty
  | cons line lines =>
    have merged : front ++ joinLines (line :: lines) = joinLines ((front ++ line) :: lines) := by
      cases lines with
      | nil => simp only [joinLines, String.intercalate_singleton]
      | cons next lines => simp only [joinLines, String.intercalate_cons_cons, String.append_assoc]
    rw [merged]
    refine literalsBetween_joinLines_append (List.cons_ne_nil _ _) (fun other member => ?_) closed
    rcases List.mem_cons.mp member with rfl | later
    · exact opened.append (apart line List.mem_cons_self).1
    · exact apart other (List.mem_cons_of_mem line later)

end

/-! ## Lines that are written out -/

section

variable {line word : List Char}

theorem apart_ofList (plain : '\n' ∉ line) (clash : line.take word.length ≠ word.take line.length) :
    Apart (String.ofList word) (String.ofList line) := by
  refine ⟨unbroken_ofList plain, ?_⟩
  rwa [Clash, String.toList_ofList, String.toList_ofList]

theorem forall_apart_cons (plain : '\n' ∉ line)
    (clash : line.take word.length ≠ word.take line.length) {lines : List String}
    (apart : ∀ other ∈ lines, Apart (String.ofList word) other) :
    ∀ other ∈ String.ofList line :: lines, Apart (String.ofList word) other :=
  List.forall_mem_cons.mpr ⟨apart_ofList plain clash, apart⟩

/-- A line that does not start with the first word gives no literal. -/
theorem flatMap_literalsBetween_cons {after : String} (plain : '\n' ∉ line)
    (other : line.dropPrefix? word = none) (parts : List String) :
    (String.ofList line :: parts).flatMap (literalsBetween (String.ofList word) after) =
      parts.flatMap (literalsBetween (String.ofList word) after) := by
  have starts : behind? (String.ofList word) (String.ofList line).toList = none := by
    rwa [behind?, String.toList_ofList, String.toList_ofList]
  rw [List.flatMap_cons, literalsBetween_eq_nil (unbroken_ofList plain) starts, List.nil_append]

end

/-! ## The script of a recording -/

/-- The addresses that a script opens, by the lines that do. -/
def openedAddresses : String → List String := literalsBetween "    await page.goto(" ");"

/-- The listener in the page opens nothing. -/
theorem openedAddresses_captureScript :
    openedAddresses ("    await page.addInitScript(" ++ Recording.captureScript ++ ");") = [] := by
  rw [openedAddresses, Recording.captureScript, ← joinLines]
  refine literalsBetween_framed (List.cons_ne_nil _ _) ?_ (apart_ofList (by decide) (by decide))
    (unbroken_ofList (by decide))
  repeat refine forall_apart_cons (by decide) (by decide) ?_
  exact List.forall_mem_nil _

theorem Browser.unbroken_name (browser : Browser) : Unbroken browser.name := by
  cases browser with
  | chromium => exact unbroken_ofList (by decide)
  | firefox => exact unbroken_ofList (by decide)
  | webkit => exact unbroken_ofList (by decide)

theorem unbroken_toString (n : UInt32) : Unbroken (toString n) := by
  intro feed
  have digit : '\n'.isDigit = true := isDigit_of_mem_toString feed
  cases digit

/-- The line that starts the browser opens nothing. -/
theorem openedAddresses_launch (browser : Browser) :
    openedAddresses ("    browser = await " ++ browser.name ++
      ".launch(\x7b headless: false \x7d);") = [] := by
  have front : Apart "    await page.goto(" "    browser = await " :=
    apart_ofList (by decide) (by decide)
  have named := front.append browser.unbroken_name
  exact (named.append (unbroken_ofList (by decide))).literalsBetween_eq_nil

/-- The line that sets the size of the page opens nothing. -/
theorem openedAddresses_viewport (width height : UInt32) :
    openedAddresses ("      viewport: \x7b width: " ++ toString width ++ ", height: " ++
      toString height ++ " \x7d") = [] := by
  have front : Apart "    await page.goto(" "      viewport: \x7b width: " :=
    apart_ofList (by decide) (by decide)
  have wide := (front.append (unbroken_toString width)).append
    (unbroken_ofList (by decide) : Unbroken ", height: ")
  have sized := wide.append (unbroken_toString height)
  exact (sized.append (unbroken_ofList (by decide))).literalsBetween_eq_nil

/-- The line that opens an address opens that one, whatever the address holds. -/
theorem openedAddresses_goto (address : String) :
    openedAddresses ("    await page.goto('" ++ Quoted.escaped address ++ "');") = [address] := by
  have form : "    await page.goto('" ++ Quoted.escaped address ++ "');" =
      "    await page.goto(" ++ (Quoted.literal address ++ ");") := by
    have front : "    await page.goto('" = "    await page.goto(" ++ "'" := rfl
    have back : "');" = "'" ++ ");" := rfl
    rw [front, back, Quoted.literal]
    simp only [String.append_assoc]
  have unbroken : Unbroken ("    await page.goto('" ++ Quoted.escaped address ++ "');") := by
    rw [unbroken_append, unbroken_append]
    exact ⟨⟨unbroken_ofList (by decide), unbroken_escaped address⟩, unbroken_ofList (by decide)⟩
  rw [openedAddresses, literalsBetween, linesOf_eq_singleton unbroken, List.filterMap_cons_some
    (literalBetween?_eq_some_iff.mpr form), List.filterMap_nil]

/-- **The script of a recording opens the start address, and nothing else.** -/
theorem openedAddresses_script (settings : RecordingSettings) (start : String) :
    openedAddresses (Recording.script settings start) = [start] := by
  have launch := openedAddresses_launch settings.browser
  have viewport := openedAddresses_viewport settings.viewportWidth settings.viewportHeight
  have listener := openedAddresses_captureScript
  have opening := openedAddresses_goto start
  rw [openedAddresses] at launch viewport listener opening ⊢
  rw [Recording.script, ← joinLines, literalsBetween_joinLines (List.cons_ne_nil _ _)]
  -- part by part, passing over the lines that are the same in every script
  repeat rw [flatMap_literalsBetween_cons (by decide) (by decide)]
  rw [List.flatMap_cons, launch, List.nil_append]
  repeat rw [flatMap_literalsBetween_cons (by decide) (by decide)]
  rw [List.flatMap_cons, viewport, List.nil_append]
  repeat rw [flatMap_literalsBetween_cons (by decide) (by decide)]
  rw [List.flatMap_cons, listener, List.nil_append]
  repeat rw [flatMap_literalsBetween_cons (by decide) (by decide)]
  rw [List.flatMap_cons, opening]
  repeat rw [flatMap_literalsBetween_cons (by decide) (by decide)]
  rw [List.flatMap_nil, List.append_nil]

/-- **Literals are exact.**

- A literal with any text behind it is read up to its own closing quote. It gives its text and
  leaves the other, and a text reads as a literal in that spelling only.
- An escaped text has no line break.
- The four builders of locator expressions, taken together, are injective. The builder and the
  arguments are read back from the expression, and no other text reads as them.
- The script of a recording opens the start address, whatever that is, and no other. -/
theorem literals_exact :
    (∀ s t : String, Quoted.scan (Quoted.literal s ++ t).toList = some (s.toList, t.toList)) ∧
    (∀ text body rest : List Char, Quoted.scan text = some (body, rest) ↔
      text = '\'' :: (Quoted.encode body ++ '\'' :: rest)) ∧
    (∀ s : String, OnOneLine (Quoted.escaped s).toList) ∧
    Function.Injective LocatorExpression.build ∧
    (∀ (line : String) (e : LocatorExpression),
      LocatorExpression.ofText? line = some e ↔ line = e.build) ∧
    (∀ (settings : RecordingSettings) (start : String),
      openedAddresses (Recording.script settings start) = [start]) := by
  refine ⟨Quoted.scan_literal, fun _ _ _ => Quoted.scan_eq_some_iff, fun s => ?_,
    LocatorExpression.build_injective, fun _ _ => LocatorExpression.ofText?_eq_some_iff,
    openedAddresses_script⟩
  rw [Quoted.escaped, String.toList_ofList]
  exact Quoted.onOneLine_encode s.toList

end TestPlanner
