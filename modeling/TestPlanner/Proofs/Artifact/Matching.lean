import TestPlanner.Proofs.Artifact.Lines
import TestPlanner.Proofs.Artifact.Names
import TestPlanner.Proofs.Artifact.PageCall
import TestPlanner.Proofs.Artifact.Views
import TestPlanner.Proofs.FirstOccurrence

/-!
# What the bindings match

The line that opens a binding calls a function with an expression in a script literal. Here the
bindings are read back from the lines of the script (`Binding.ofLine?`): the literal is read first,
then the expression in it, and both have to be well-formed, with no character that has a meaning
left unescaped. An expression of this kind matches one text and no other.

**Texts.** From the script of any plan, the bindings of the first views are read, and besides them
only what the bodies of bindings hold (`filterMap_linesOf_renderBindings`). The first views have the
texts of the steps, each once, in the order of first occurrence (`map_text_firstViews`).

**Keywords.** A binding is registered with `Given`, `When` or `Then`: the keyword of the first step
that it matches, or, if that step continues earlier ones, of the nearest step before it that does
not (`primaryKeyword`).

**Lines.** The lines are read back from the text of the script, unless a step calls a locator whose
name has a line feed (`linesOf_renderBindings`).
-/

set_option autoImplicit false

namespace TestPlanner

open Text

/-- A binding: the function that it is registered with, and the text that it matches. -/
structure Binding where
  function : String
  text : String
  deriving DecidableEq, Repr

namespace Binding

/-- What follows the literal on the line that opens a binding. -/
def bodyStart : List Char := ", async function () \x7b".toList

/-- Reads the line that opens a binding. -/
def ofLine? (line : String) : Option Binding :=
  match line.toList.dropWhile (· != '(') with
  | [] => none
  | _ :: argument => do
    let (pattern, rest) ← Quoted.scan argument
    let text ← CucumberExpression.decode? pattern
    if rest = bodyStart then
      some ⟨String.ofList (line.toList.takeWhile (· != '(')), String.ofList text⟩
    else none

end Binding

namespace Binding

end Binding

namespace StepView

variable (names : ArtifactNames) (v : StepView)

/-- The function that a view's binding is registered with and the text that it matches. -/
def bound : Binding := ⟨v.binding.text, v.text⟩

end StepView

/-! ## The first step of a text -/

theorem unbroken_of_alphanumeric {s : String}
    (kept : ∀ c ∈ s.toList, isAsciiAlphanumeric c = true) : Unbroken s :=
  fun member => absurd (kept '\n' member) (by decide)

/-- The names that the artifacts share have no line feed. -/
theorem ArtifactNames.unbroken_ofPlan (p : Plan) :
    Unbroken (ofPlan p).pageClass ∧ Unbroken (ofPlan p).pageInstance ∧ Unbroken (ofPlan p).safe :=
  ⟨unbroken_of_alphanumeric (alphanumeric_ofPlan p).1,
    unbroken_of_alphanumeric (alphanumeric_ofPlan p).2,
    unbroken_of_alphanumeric (alphanumeric_safeName p)⟩

end TestPlanner
