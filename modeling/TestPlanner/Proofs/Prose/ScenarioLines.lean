import TestPlanner.Proofs.FirstOccurrence
import TestPlanner.Proofs.Text.Phrase
import TestPlanner.Proofs.Text.Spelling
import TestPlanner.Proofs.Text.Words
import TestPlanner.Prose.Scenarios

/-!
# Lines of a scenario

A line of a text opens a scenario, is a step of one, or neither.

**Headers.** A line opens a scenario if it starts with `Scenario:` or `Scenario Outline:`, written
with any ASCII capitals (`isHeader_lower_iff`). The name is what follows, without the blanks in
front (`headerName?_append`).

**Steps.** A line is a step if it starts with one of the five keywords and a blank. The step has
that keyword, and its text is what follows, again without the blanks in front
(`stepLine?_eq_some_iff`).

**Scenarios.** The lines up to a header belong to the scenario before it. So a header with lines
below it that open no scenario is one scenario with the steps of these lines, in order
(`scenariosFrom_append`), and the scenarios of a text are those of its headers
(`forall₂_scenariosFrom`).
-/

set_option autoImplicit false

namespace TestPlanner

open Text

/-! ## Keywords -/

namespace Keyword

/-- The keyword is written so, with any ASCII capitals. -/
def Written (keyword : Keyword) (word : List Char) : Prop :=
  word.map asciiLower = keyword.text.toList.map asciiLower

instance (keyword : Keyword) (word : List Char) : Decidable (keyword.Written word) :=
  inferInstanceAs (Decidable (_ = _))

/-- **A keyword is read exactly where it is written.** -/
theorem ofChars?_eq_some_iff {word : List Char} {keyword : Keyword} :
    ofChars? word = some keyword ↔ keyword.Written word := by
  constructor
  · intro read
    rw [ofChars?] at read
    have same := List.find?_some read
    exact (beq_iff_eq.mp same).symm
  · intro written
    rw [ofChars?, written]
    cases keyword <;> decide

end Keyword

namespace Prose

/-! ## Headers -/

/-- The two headers in small letters. -/
def headerWords : List (List Char) := ["scenario:".toList, "scenario outline:".toList]

/-- A header, written with any ASCII capitals. -/
def IsHeaderWord (word : List Char) : Prop := word.map asciiLower ∈ headerWords

instance (word : List Char) : Decidable (IsHeaderWord word) :=
  inferInstanceAs (Decidable (_ ∈ _))

/-- A line that starts with a header. -/
def OpensScenario (line : List Char) : Prop := ∃ word rest, line = word ++ rest ∧ IsHeaderWord word

theorem opensScenario_iff {line : List Char} :
    OpensScenario line ↔ ∃ word ∈ headerWords, word <+: line.map asciiLower := by
  constructor
  · rintro ⟨word, rest, rfl, listed⟩
    exact ⟨_, listed, rest.map asciiLower, by rw [List.map_append]⟩
  · rintro ⟨word, listed, rest, split⟩
    obtain ⟨front, behind, rfl, rfl, _⟩ := List.map_eq_append_iff.mp split.symm
    exact ⟨front, behind, rfl, listed⟩

instance (line : List Char) : Decidable (OpensScenario line) :=
  decidable_of_iff _ opensScenario_iff.symm

/-- **A line opens a scenario exactly if it starts with a header.** -/
theorem isHeader_lower_iff {line : List Char} :
    isHeader (lower line) = true ↔ OpensScenario line := by
  have plain : Plain "scenario:".toList ∧ Plain "scenario outline:".toList := by decide +kernel
  rw [isHeader, Bool.or_eq_true, List.isPrefixOf_iff_prefix, List.isPrefixOf_iff_prefix,
    plain.1.prefix_lower_iff, plain.2.prefix_lower_iff, opensScenario_iff, headerWords]
  simp only [List.mem_cons, List.not_mem_nil, or_false, exists_eq_or_imp, exists_eq_left]

theorem small_scenario : Small "scenario".toList := by decide +kernel

theorem small_outline : Small "outline".toList := by decide +kernel

/-- A header is `scenario`, perhaps with a space and `outline` behind it, and a colon. -/
theorem IsHeaderWord.cases {word : List Char} (header : IsHeaderWord word) :
    ∃ front, Spells front "scenario".toList ∧ (word = front ++ [':'] ∨
      ∃ outline, Spells outline "outline".toList ∧ word = front ++ ' ' :: (outline ++ [':'])) := by
  have forms : headerWords = ["scenario".toList ++ [':'],
      "scenario".toList ++ ' ' :: ("outline".toList ++ [':'])] := by decide
  rw [IsHeaderWord, forms, List.mem_cons, List.mem_singleton] at header
  rcases header with plain | outlined
  · obtain ⟨front, last, rfl, form, ending⟩ := List.map_eq_append_iff.mp plain
    obtain ⟨c, rfl, colon⟩ := List.map_eq_singleton_iff.mp ending
    refine ⟨front, spells_of_asciiLower small_scenario form, .inl ?_⟩
    rw [eq_of_asciiLower (by decide) colon]
  · obtain ⟨front, last, rfl, form, ending⟩ := List.map_eq_append_iff.mp outlined
    obtain ⟨b, behind, rfl, space, ending⟩ := List.map_eq_cons_iff.mp ending
    obtain ⟨outline, last, rfl, form', ending⟩ := List.map_eq_append_iff.mp ending
    obtain ⟨c, rfl, colon⟩ := List.map_eq_singleton_iff.mp ending
    refine ⟨front, spells_of_asciiLower small_scenario form, .inr
      ⟨outline, spells_of_asciiLower small_outline form', ?_⟩⟩
    rw [eq_of_asciiLower (by decide) colon, eq_of_asciiLower (by decide) space]

/-- A word is not skipped where it is not spelled. -/
theorem skipPhrase_of_not_prefix {word s : List Char} (small : Small word)
    (other : ¬ word <+: s.map folded) : skipPhrase word s = s := by
  rw [skipPhrase, (phrase?_eq_none_iff small).mpr other, Option.getD_none]

/-- **The name of a scenario is what follows its header.** -/
theorem headerName?_append {word : List Char} (header : IsHeaderWord word) (rest : List Char) :
    headerName? (word ++ rest) = some (trimStart rest) := by
  have colon : trimStart (':' :: rest) = ':' :: rest := trimStart_cons_of_visible (by decide) rest
  obtain ⟨front, spelled, rfl | ⟨outline, spelled', rfl⟩⟩ := header.cases
  · have skipped : skipPhrase "outline".toList (':' :: rest) = ':' :: rest := by
      refine skipPhrase_of_not_prefix small_outline fun starts => ?_
      exact absurd (List.cons_prefix_cons.mp starts).1 (by decide)
    rw [headerName?, List.append_assoc, List.singleton_append]
    simp only [phrase?_append small_scenario spelled, Option.bind_eq_bind, Option.bind_some, colon, skipped]
  · have skipped : skipPhrase "outline".toList (outline ++ ':' :: rest) = ':' :: rest := by
      rw [skipPhrase, phrase?_append small_outline spelled', Option.getD_some]
    have started : trimStart (' ' :: (outline ++ ':' :: rest)) = outline ++ ':' :: rest := by
      rw [trimStart_cons (by decide)]
      cases outline with
      | nil => exact absurd spelled' (by decide)
      | cons c outline =>
        refine trimStart_cons_of_visible (Bool.eq_false_iff.mpr fun blank => ?_) _
        have form := (List.cons.inj spelled').1
        rw [folded_of_isBlank blank] at form
        exact absurd blank (by rw [form]; decide)
    rw [headerName?]
    simp only [List.append_assoc, List.cons_append, List.nil_append,
      phrase?_append small_scenario spelled, Option.bind_eq_bind, Option.bind_some, started, skipped, colon]

/-! ## Steps -/

/-- The step keywords are the keywords in small letters. -/
theorem stepWords_eq : stepWords = Keyword.all.map fun k => k.text.toList.map asciiLower := by
  decide

theorem mem_stepWords (keyword : Keyword) : keyword.text.toList.map asciiLower ∈ stepWords := by
  cases keyword <;> decide

/-- The step keywords have no spellings but those in ASCII, and none starts another one. -/
theorem stepWords_apart : ∀ word ∈ stepWords, Small word ∧ ('s' ∉ word ∧ 'k' ∉ word) ∧
    ∀ other ∈ stepWords, word <+: other → word = other := by
  decide +kernel

theorem exists_written {front : List Char} (listed : front.map asciiLower ∈ stepWords) :
    ∃ keyword, Keyword.Written keyword front := by
  rw [stepWords_eq] at listed
  obtain ⟨keyword, _, form⟩ := List.mem_map.mp listed
  exact ⟨keyword, form.symm⟩

/-- A line that starts with a keyword and a blank. -/
def IsStep (line : List Char) : Prop :=
  ∃ keyword word gap rest, line = word ++ (gap ++ rest) ∧ Keyword.Written keyword word ∧ IsGap gap

/-- What a line gives when one of the keywords is tried. -/
def stepBehind? (line word : List Char) : Option (Keyword × List Char) :=
  (phrase? word line).bind fun s =>
    match s with
    | [] => none
    | c :: rest =>
      if isBlank c then some ((Keyword.ofChars? (line.take word.length)).getD .given, trimStart rest)
      else none

theorem stepLine?_eq (line : List Char) : stepLine? line = stepWords.findSome? (stepBehind? line) :=
  rfl

/-- **A line that starts with a keyword is the step of that keyword.** -/
theorem stepBehind?_eq_some_iff {line word text : List Char} {keyword : Keyword}
    (listed : word ∈ stepWords) :
    stepBehind? line word = some (keyword, text) ↔
      ∃ front gap, line = front ++ (gap ++ text) ∧ front.map asciiLower = word ∧
        Keyword.Written keyword front ∧ IsGap gap ∧ (text.head?.all fun c => !isBlank c) = true := by
  obtain ⟨small, plain, _⟩ := stepWords_apart word listed
  constructor
  · intro found
    obtain ⟨behind, read, found⟩ := Option.bind_eq_some_iff.mp found
    obtain ⟨front, rfl, spelled⟩ := (phrase?_eq_some_iff small).mp read
    have form := asciiLower_of_spells plain spelled
    cases behind with
    | nil => cases found
    | cons c rest =>
      simp only at found
      split at found
      next blank =>
        obtain ⟨keyword_eq, rfl⟩ := Prod.mk.inj (Option.some.inj found)
        refine ⟨front, c :: rest.takeWhile isBlank, ?_, form, ?_, ?_, head?_trimStart rest⟩
        · rw [List.cons_append, trimStart, List.takeWhile_append_dropWhile]
        · obtain ⟨own, written⟩ := exists_written (form ▸ listed)
          have length : word.length = front.length := by rw [← form, List.length_map]
          rw [length, List.take_left, Keyword.ofChars?_eq_some_iff.mpr written] at keyword_eq
          exact keyword_eq ▸ written
        · exact ⟨List.cons_ne_nil _ _, List.forall_mem_cons.mpr
            ⟨blank, fun d member => List.mem_takeWhile_imp member⟩⟩
      next => cases found
  · rintro ⟨front, gap, rfl, form, written, isGap, starts⟩
    have length : word.length = front.length := by rw [← form, List.length_map]
    rw [stepBehind?, phrase?_append small (spells_of_asciiLower small form), Option.bind_some, length,
      List.take_left, Keyword.ofChars?_eq_some_iff.mpr written, Option.getD_some]
    cases gap with
    | nil => exact absurd rfl isGap.nonempty
    | cons c gap =>
      have blanks : ∀ d ∈ gap, isBlank d = true :=
        fun d member => isGap.blank d (List.mem_cons_of_mem c member)
      simp only [List.cons_append, isGap.blank c List.mem_cons_self, if_true,
        trimStart_append blanks, trimStart_eq_self starts]

/-- **A line is a step exactly if a keyword, blanks and a text make it up.** -/
theorem stepLine?_eq_some_iff {line text : List Char} {keyword : Keyword} :
    stepLine? line = some (keyword, text) ↔
      ∃ word gap, line = word ++ (gap ++ text) ∧ Keyword.Written keyword word ∧ IsGap gap ∧
        (text.head?.all fun c => !isBlank c) = true := by
  rw [stepLine?_eq]
  constructor
  · intro found
    obtain ⟨word, listed, found⟩ := List.exists_of_findSome?_eq_some found
    obtain ⟨front, gap, split, _, shape⟩ := (stepBehind?_eq_some_iff listed).mp found
    exact ⟨front, gap, split, shape⟩
  · rintro ⟨front, gap, split, written, shape⟩
    have listed : front.map asciiLower ∈ stepWords := written ▸ mem_stepWords keyword
    refine findSome?_of_only listed
      ((stepBehind?_eq_some_iff listed).mpr ⟨front, gap, split, rfl, written, shape⟩) ?_
    intro other listed' different
    -- another keyword would start this one, or this one it
    rw [← Option.not_isSome_iff_eq_none, Option.isSome_iff_exists]
    rintro ⟨⟨_, _⟩, found⟩
    obtain ⟨front', gap', split', form, _⟩ := (stepBehind?_eq_some_iff listed').mp found
    have starts : front.map asciiLower <+: line.map asciiLower := by
      rw [split, List.map_append]
      exact List.prefix_append _ _
    have starts' : other <+: line.map asciiLower := by
      rw [split', List.map_append, form]
      exact List.prefix_append _ _
    rcases List.prefix_or_prefix_of_prefix starts starts' with shorter | longer
    · exact different ((stepWords_apart _ listed).2.2 other listed' shorter).symm
    · exact different ((stepWords_apart other listed').2.2 _ listed longer)

/-- What starts with a keyword and a blank is read as a step. -/
theorem isStep_iff {line : List Char} : IsStep line ↔ ∃ step, stepLine? line = some step := by
  constructor
  · rintro ⟨keyword, word, gap, rest, split, written, isGap⟩
    refine ⟨(keyword, trimStart rest), stepLine?_eq_some_iff.mpr
      ⟨word, gap ++ rest.takeWhile isBlank, ?_, written, ⟨?_, ?_⟩, head?_trimStart rest⟩⟩
    · rw [split, List.append_assoc, trimStart, List.takeWhile_append_dropWhile]
    · simp [isGap.nonempty]
    · exact List.forall_mem_append.mpr ⟨isGap.blank, fun c member => List.mem_takeWhile_imp member⟩
  · rintro ⟨⟨keyword, text⟩, found⟩
    obtain ⟨word, gap, split, written, isGap, _⟩ := stepLine?_eq_some_iff.mp found
    exact ⟨keyword, word, gap, text, split, written, isGap⟩

instance (line : List Char) : Decidable (IsStep line) :=
  decidable_of_iff ((stepLine? line).isSome = true)
    (by rw [isStep_iff, Option.isSome_iff_exists])

theorem stepLine?_eq_none {line : List Char} (other : ¬ IsStep line) : stepLine? line = none := by
  rwa [isStep_iff, ← Option.ne_none_iff_exists', ne_eq, Classical.not_not] at other

/-! ## Lines under headers -/

/-- **A header closes the scenario above it,** and the steps below it are those of its own. -/
theorem scenariosFrom_header {header : List Char} (opens : OpensScenario header)
    (lines : List (List Char)) :
    scenariosFrom (header :: lines) =
      ([], scenarioOf header (lower header) (scenariosFrom lines).1 :: (scenariosFrom lines).2) := by
  rw [scenariosFrom]
  simp only [isHeader_lower_iff.mpr opens, if_true]

theorem scenariosFrom_other {line : List Char} (other : ¬ OpensScenario line)
    (lines : List (List Char)) :
    scenariosFrom (line :: lines) =
      ((scenarioStep? line).toList ++ (scenariosFrom lines).1, (scenariosFrom lines).2) := by
  have small : isHeader (lower line) = false :=
    Bool.eq_false_iff.mpr fun header => other (isHeader_lower_iff.mp header)
  rw [scenariosFrom]
  simp only [small, Bool.false_eq_true, if_false]

/-- **Lines that open no scenario give their steps to the one above them,** in order. -/
theorem scenariosFrom_append {body : List (List Char)} (others : ∀ line ∈ body, ¬ OpensScenario line)
    (lines : List (List Char)) :
    scenariosFrom (body ++ lines) =
      (body.filterMap scenarioStep? ++ (scenariosFrom lines).1, (scenariosFrom lines).2) := by
  induction body with
  | nil => rfl
  | cons line body ih =>
    obtain ⟨other, others⟩ := List.forall_mem_cons.mp others
    rw [List.cons_append, scenariosFrom_other other, ih others]
    cases step : scenarioStep? line with
    | none => rw [List.filterMap_cons_none step]; rfl
    | some made => rw [List.filterMap_cons_some step]; rfl

/-- **Each header has its scenario,** in order. -/
theorem forall₂_scenariosFrom (lines : List (List Char)) :
    List.Forall₂
      (fun header scenario => OpensScenario header ∧
        ∃ steps, scenario = scenarioOf header (lower header) steps)
      (lines.filter fun line => OpensScenario line) (scenariosFrom lines).2 := by
  induction lines with
  | nil => exact .nil
  | cons line lines ih =>
    by_cases opens : OpensScenario line
    · rw [scenariosFrom_header opens, List.filter_cons_of_pos (by simpa using opens)]
      exact .cons ⟨opens, _, rfl⟩ ih
    · rw [scenariosFrom_other opens, List.filter_cons_of_neg (by simpa using opens)]
      exact ih

end Prose

end TestPlanner
