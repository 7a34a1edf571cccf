import TestPlanner.Proofs.Prose.ScenarioLines
import Mathlib.Data.List.Forall2

/-!
# Kinds of scenarios

A text has a scenario for each of its header lines, in order, and a generated one if it has none
(`scenarios_follow_headers`). The name of a scenario is what its header line says behind the header.

The kind is decided by the word `outline` in the whole header line. The header `Scenario Outline:`
has that word, so it always stands for an outline. So does a header `Scenario:` whose name mentions
it, in whatever letter case (`headerKind_lower`); a plain scenario may be taken for an outline that
way (`outline_by_name`).
-/

set_option autoImplicit false

namespace TestPlanner.Prose

open Text

/-- The lines of a text that open a scenario. -/
def headerLines (text : List Char) : List (List Char) :=
  (nonblankLines text).filter fun line => OpensScenario line

/-- The header of outlines, written with any ASCII capitals. -/
def IsOutlineWord (word : List Char) : Prop :=
  word.map asciiLower = "scenario outline:".toList

instance (word : List Char) : Decidable (IsOutlineWord word) :=
  inferInstanceAs (Decidable (_ = _))

/-- A name in which the word `outline` occurs, written with any ASCII capitals. -/
def MentionsOutline (name : List Char) : Prop := "outline".toList <:+: name.map asciiLower

instance (name : List Char) : Decidable (MentionsOutline name) :=
  inferInstanceAs (Decidable (_ <:+: _))

/-- The scenario of a header line has the name that follows the header, and its kind is that of the
header, unless the name mentions an outline. -/
def FollowsHeader (line : List Char) (scenario : Scenario) : Prop :=
  ∃ word gap name, line = word ++ (gap ++ name) ∧ IsHeaderWord word ∧
    (∀ c ∈ gap, isBlank c = true) ∧ (name.head?.all fun c => !isBlank c) = true ∧
    scenario.name = String.ofList name ∧
    scenario.kind = if IsOutlineWord word ∨ MentionsOutline name then .outline else .scenario

/-! ## The word in a header line -/

/-- Blanks in front of a name do not matter. -/
theorem mentionsOutline_append {gap : List Char} (blank : ∀ c ∈ gap, isBlank c = true)
    (name : List Char) : MentionsOutline (gap ++ name) ↔ MentionsOutline name := by
  have shown : ("outline".toList.all fun c => !isBlank c) = true := by decide
  induction gap with
  | nil => rfl
  | cons c gap ih =>
    obtain ⟨first, later⟩ := List.forall_mem_cons.mp blank
    have absent : asciiLower c ∉ "outline".toList := by
      rw [asciiLower_of_isBlank first]
      intro member
      have visible := List.all_eq_true.mp shown c member
      rw [first] at visible
      cases visible
    rw [MentionsOutline, List.cons_append, List.map_cons, infix_cons_iff_of_not_mem absent]
    exact ih later

/-- **The kind of a header line** is that of its header, unless its name mentions an outline. -/
theorem headerKind_lower {word gap : List Char} (header : IsHeaderWord word)
    (blank : ∀ c ∈ gap, isBlank c = true) (name : List Char) :
    headerKind (lower (word ++ (gap ++ name))) =
      if IsOutlineWord word ∨ MentionsOutline name then .outline else .scenario := by
  have plain : Plain "outline".toList := by decide +kernel
  have occurs : occursIn "outline".toList (lower (word ++ (gap ++ name))) = true ↔
      IsOutlineWord word ∨ MentionsOutline name := by
    rw [plain.occursIn_lower_iff, List.map_append]
    rcases List.mem_cons.mp header with short | long
    · -- the colon of the header keeps the word from reaching across it
      have form : word.map asciiLower = "scenario".toList ++ [':'] := short
      have other : ¬ IsOutlineWord word := by
        rw [IsOutlineWord, short]
        decide
      have inHeader : ¬ "outline".toList <:+: "scenario".toList := by decide
      rw [form, List.append_assoc, List.singleton_append,
        infix_append_cons_iff_of_not_mem (by decide), or_iff_right inHeader, or_iff_right other]
      exact mentionsOutline_append blank name
    · have own : IsOutlineWord word := List.mem_singleton.mp long
      have inHeader : "outline".toList <:+: "scenario outline:".toList := by decide
      refine iff_of_true ?_ (.inl own)
      rw [own]
      exact inHeader.trans (List.prefix_append _ _).isInfix
  rw [headerKind]
  exact if_congr occurs rfl rfl

/-! ## Scenarios and headers -/

/-- A scenario that a header line opens follows it. -/
theorem followsHeader_scenarioOf {line : List Char} (opens : OpensScenario line)
    (steps : List ScenarioStep) : FollowsHeader line (scenarioOf line (lower line) steps) := by
  obtain ⟨word, rest, rfl, header⟩ := opens
  have split : rest = rest.takeWhile isBlank ++ trimStart rest :=
    List.takeWhile_append_dropWhile.symm
  have blank : ∀ c ∈ rest.takeWhile isBlank, isBlank c = true :=
    fun c member => List.mem_takeWhile_imp member
  refine ⟨word, rest.takeWhile isBlank, trimStart rest, by rw [← split], header, blank,
    head?_trimStart rest, ?_, ?_⟩
  · rw [scenarioOf, headerName?_append header, Option.getD_some]
  · rw [← headerKind_lower header blank, ← split]
    rfl

/-- The scenarios under headers follow them. -/
theorem forall₂_explicitScenarios (text : List Char) :
    List.Forall₂ FollowsHeader (headerLines text) (explicitScenarios text) := by
  refine (forall₂_scenariosFrom (nonblankLines text)).imp ?_
  rintro header _ ⟨opens, steps, rfl⟩
  exact followsHeader_scenarioOf opens steps

/-- No header stands for a generated scenario. -/
theorem FollowsHeader.kind_ne_generated {line : List Char} {scenario : Scenario}
    (follows : FollowsHeader line scenario) : scenario.kind ≠ .generated := by
  obtain ⟨word, gap, name, _, _, _, _, _, kind⟩ := follows
  rw [kind]
  split
  next => exact fun same => nomatch same
  next => exact fun same => nomatch same

/-- **Scenarios follow the headers of a text.** If it has header lines, each has its scenario, in
order: an outline exactly if the header is that of outlines or the name mentions one, and never a
generated one. If it has none, the generated scenario is the only one. -/
theorem scenarios_follow_headers (text : List Char) (story : UserStory) :
    (headerLines text ≠ [] ∧
      List.Forall₂ FollowsHeader (headerLines text) (scenarios text story) ∧
      ∀ scenario ∈ scenarios text story, scenario.kind ≠ .generated) ∨
    (headerLines text = [] ∧ scenarios text story = [generatedScenario story] ∧
      (generatedScenario story).kind = .generated) := by
  have follows := forall₂_explicitScenarios text
  rw [scenarios]
  cases found : explicitScenarios text with
  | nil =>
    rw [found, List.forall₂_nil_right_iff] at follows
    exact .inr ⟨follows, rfl, rfl⟩
  | cons first rest =>
    rw [found] at follows
    refine .inl ⟨?_, follows, ?_⟩
    · intro none
      rw [none] at follows
      cases follows
    · have flipped : List.Forall₂ (fun scenario header => FollowsHeader header scenario)
          (first :: rest) (headerLines text) := follows.flip
      exact ((List.forall₂_and_left _ _).mp
        (flipped.imp fun _ _ own => ⟨own.kind_ne_generated, own⟩)).1

/-- A name that mentions an outline makes an outline of a plain scenario. -/
theorem outline_by_name :
    headerLines "Scenario: Draw the outline\nGiven a canvas\n".toList =
        ["Scenario: Draw the outline".toList] ∧
      IsHeaderWord "Scenario:".toList ∧ ¬ IsOutlineWord "Scenario:".toList ∧
      scenarios "Scenario: Draw the outline\nGiven a canvas\n".toList default =
        [⟨"Draw the outline", [⟨.given, "a canvas", .setup⟩], .outline⟩] := by
  refine ⟨?_, ?_, ?_, ?_⟩ <;> decide +kernel

end TestPlanner.Prose
