import TestPlanner.Prose.Keywords
import TestPlanner.Selector

/-!
# Elements a text speaks of

Locators inferred from a text are those that its keywords call for, followed by one text locator
for every quoted piece. Steps are then made from the locators: open the application, fill every
input, click every button, and check the result.
-/

set_option autoImplicit false

namespace TestPlanner.Prose

open Text

/-- The piece in quotes at the front of a text whose opening quote is already read, and what
follows the closing quote. The piece is not empty and has no such quote inside. -/
def quotedPiece? (quote : Char) (s : List Char) : Option (List Char × List Char) :=
  let piece := s.takeWhile (· != quote)
  match s.dropWhile (· != quote) with
  | _ :: rest => if piece.isEmpty then none else some (piece, rest)
  | [] => none

theorem quotedPiece?_length {quote : Char} {s piece rest : List Char}
    (h : quotedPiece? quote s = some (piece, rest)) : rest.length < s.length := by
  unfold quotedPiece? at h
  have hle : (s.dropWhile (· != quote)).length ≤ s.length :=
    (List.dropWhile_sublist _).length_le
  cases hd : s.dropWhile (· != quote) with
  | nil => simp [hd] at h
  | cons c r =>
    rw [hd] at hle
    simp only [hd, List.length_cons] at hle h
    split at h
    · simp at h
    · have hr : r = rest := by simpa using (Prod.mk.inj (Option.some.inj h)).2
      subst hr
      omega

/-- The pieces in double or single quotes, from left to right without overlap. -/
def quotedPieces : List Char → List (List Char)
  | [] => []
  | c :: s =>
    if c == '"' || c == '\'' then
      match h : quotedPiece? c s with
      | some (piece, rest) =>
        have := quotedPiece?_length h
        piece :: quotedPieces rest
      | none => quotedPieces s
    else quotedPieces s
termination_by s => s.length
decreasing_by all_goals simp_all <;> omega

/-- The locators that the keywords of a text call for. -/
def keywordLocators (text : List Char) : List Locator :=
  let small := lower text
  (locatorRules.filter fun r => mentions r.keywords small).map fun r =>
    ⟨r.name, r.selector, some r.kind, some .high⟩

/-- The locator of the `n`th quoted piece. Quotes inside the piece are left out. -/
def quotedLocator (n : Nat) (piece : List Char) : Locator :=
  let clean := piece.filter fun c => !(c == '"' || c == '\'')
  ⟨"textElement" ++ toString n, Selector.text (String.ofList clean), some .text, some .medium⟩

/-- The locators of quoted pieces, numbered from `n`. -/
def quotedLocators (n : Nat) : List (List Char) → List Locator
  | [] => []
  | piece :: pieces => quotedLocator n piece :: quotedLocators (n + 1) pieces

/-- A locator with its selector in normal form. -/
def normalizeLocator (l : Locator) : Locator :=
  { l with selector := Selector.normalize l.selector }

/-- The locators inferred from a text. -/
def inferredLocators (text : List Char) : List Locator :=
  (keywordLocators text ++ quotedLocators 1 (quotedPieces text)).map normalizeLocator

/-- The value typed into every inferred input. -/
def fillValue : String := "test data"

/-- A locator's name in lower case, without `ending` if it ends so. -/
def fieldName (name ending : String) : String :=
  let chars := name.toList
  let stem :=
    if ending.toList.isSuffixOf chars then chars.take (chars.length - ending.toList.length)
    else chars
  String.ofList (lower stem)

/-- The step that a locator calls for. -/
def locatorStep? (l : Locator) : Option Step :=
  match l.kind with
  | some .input =>
    some (.fill .when ("I enter text into the " ++ fieldName l.name "Input" ++ " field")
      l.name fillValue)
  | some .button =>
    some (.click .when ("I click the " ++ fieldName l.name "Button" ++ " button") l.name)
  | _ => none

/-- The steps for a list of locators. -/
def inferredSteps (locators : List Locator) : List Step :=
  .navigate "I am on the application page" none ::
    (locators.filterMap locatorStep? ++ [.plain .then "I should see the expected result"])

end TestPlanner.Prose
