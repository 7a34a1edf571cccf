import TestPlanner.Proofs.Prose.ScenarioLines

/-!
# Scenarios read back

A scenario is written as a header line, with the lines of its steps below it. Lines may be indented,
blank lines may stand between them, and so may remarks, which are no steps. A text holds one or more
scenarios, perhaps with other lines in front of the first header (`ScenarioText`).

Each line is trimmed before it is looked at, so it is read as what was written
(`told_scenarioStep?`), and a header closes the scenario above it (`scenariosFrom_lines`). The
scenarios of a text are therefore those that were written, with their names and their steps in
order (`scenarios_of_written`). A remark of more than ten characters is told as a `Given` step; a
shorter one is lost.
-/

set_option autoImplicit false

namespace TestPlanner.Prose

open Text

/-! ## Lines as they are written -/

/-- Blanks that stay on their line. -/
structure Margin where
  chars : List Char
  blank : ∀ c ∈ chars, isBlank c = true
  unbroken : '\n' ∉ chars

/-- A name or the text of a step: something on one line, with no blanks around it. -/
structure Caption where
  chars : List Char
  nonempty : chars ≠ []
  visible : Visible chars
  unbroken : '\n' ∉ chars

/-- What is written on a line below a header. -/
inductive BodyLine where
  | empty
  | step (keyword : Keyword) (word : List Char) (written : keyword.Written word) (gap : Margin)
      (spaced : gap.chars ≠ []) (text : Caption)
  | remark (text : Caption) (noHeader : ¬ OpensScenario text.chars) (noStep : ¬ IsStep text.chars)

/-- A line below a header, with its margins. -/
structure WrittenLine where
  before : Margin
  content : BodyLine
  after : Margin

/-- A scenario as it is written: its header line, and the lines below it. -/
structure WrittenScenario where
  before : Margin
  word : List Char
  isHeader : IsHeaderWord word
  gap : Margin
  name : Caption
  after : Margin
  body : List WrittenLine

/-- A line in front of the first header. -/
structure LeadingLine where
  chars : List Char
  unbroken : '\n' ∉ chars
  noHeader : ¬ OpensScenario (trim chars)

/-- A text with scenarios. -/
structure ScenarioText where
  leading : List LeadingLine
  scenarios : List WrittenScenario
  nonempty : scenarios ≠ []

/-! ## What a line shows -/

/-- The visible part of a line below a header. -/
def BodyLine.chars : BodyLine → List Char
  | .empty => []
  | .step _ word _ gap _ text => word ++ (gap.chars ++ text.chars)
  | .remark text _ _ => text.chars

def WrittenLine.chars (line : WrittenLine) : List Char :=
  line.before.chars ++ (line.content.chars ++ line.after.chars)

/-- The visible part of the header line. -/
def WrittenScenario.header (scenario : WrittenScenario) : List Char :=
  scenario.word ++ (scenario.gap.chars ++ scenario.name.chars)

/-- The lines of a scenario. -/
def WrittenScenario.lines (scenario : WrittenScenario) : List (List Char) :=
  (scenario.before.chars ++ (scenario.header ++ scenario.after.chars)) ::
    scenario.body.map WrittenLine.chars

/-- The lines of a text. -/
def ScenarioText.lines (text : ScenarioText) : List (List Char) :=
  text.leading.map LeadingLine.chars ++ text.scenarios.flatMap WrittenScenario.lines

/-- The text itself. -/
def ScenarioText.chars (text : ScenarioText) : List Char := joinWith ['\n'] text.lines

/-! ## What a scenario tells -/

/-- What a line below a header tells: the keyword and the text of a step. A remark is told as it
stands, if it is long enough. -/
def BodyLine.told : BodyLine → Option (Keyword × String)
  | .empty => none
  | .step keyword _ _ _ _ text => some (keyword, String.ofList text.chars)
  | .remark text _ _ =>
    if 10 < text.chars.length then some (.given, String.ofList text.chars) else none

/-- The name and the steps of a scenario as it is written. -/
def WrittenScenario.told (scenario : WrittenScenario) : String × List (Keyword × String) :=
  (String.ofList scenario.name.chars, scenario.body.filterMap fun line => line.content.told)

/-- The name and the steps of a scenario that was found. -/
def told (scenario : Scenario) : String × List (Keyword × String) :=
  (scenario.name, scenario.steps.map fun step => (step.keyword, step.text))

/-! ## Each line by itself -/

/-- A word that may start a line: it begins visibly and is on one line. -/
structure StartsLine (word : List Char) : Prop where
  first : (word.head?.any fun c => !isBlank c) = true
  unbroken : '\n' ∉ word

instance (word : List Char) : Decidable (StartsLine word) :=
  decidable_of_iff ((word.head?.any fun c => !isBlank c) = true ∧ '\n' ∉ word)
    ⟨fun ⟨first, unbroken⟩ => ⟨first, unbroken⟩, fun ⟨first, unbroken⟩ => ⟨first, unbroken⟩⟩

namespace StartsLine

variable {word : List Char}

/-- ASCII capitals do not matter. -/
theorem of_asciiLower (starts : StartsLine (word.map asciiLower)) : StartsLine word := by
  refine ⟨?_, fun feed => starts.unbroken (List.mem_map.mpr ⟨'\n', feed, by decide⟩)⟩
  have first := starts.first
  cases word with
  | nil => cases first
  | cons c word =>
    rw [List.map_cons, List.head?_cons, Option.any_some] at first
    rw [List.head?_cons, Option.any_some, Bool.not_eq_true', Bool.eq_false_iff]
    intro blank
    rw [asciiLower_of_isBlank blank, blank] at first
    cases first

theorem visible (starts : StartsLine word) (gap : Margin) (text : Caption) :
    Visible (word ++ (gap.chars ++ text.chars)) := by
  constructor
  · have first := starts.first
    cases word with
    | nil => cases first
    | cons c word => exact first
  · rw [← List.append_assoc, List.getLast?_append_of_ne_nil _ text.nonempty]
    exact text.visible.last

theorem unbroken_append (starts : StartsLine word) (gap : Margin) (text : Caption) :
    '\n' ∉ word ++ (gap.chars ++ text.chars) := by
  simp only [List.mem_append, not_or]
  exact ⟨starts.unbroken, gap.unbroken, text.unbroken⟩

end StartsLine

theorem startsLine_of_written {keyword : Keyword} {word : List Char}
    (written : keyword.Written word) : StartsLine word := by
  refine .of_asciiLower ?_
  rw [written]
  cases keyword <;> decide

theorem IsHeaderWord.startsLine {word : List Char} (header : IsHeaderWord word) :
    StartsLine word := by
  have each : ∀ small ∈ headerWords, StartsLine small := by decide
  exact .of_asciiLower (each _ header)

namespace BodyLine

theorem visible (line : BodyLine) : Visible line.chars := by
  cases line with
  | empty => exact ⟨rfl, rfl⟩
  | step _ word written gap _ text => exact (startsLine_of_written written).visible gap text
  | remark text => exact text.visible

theorem unbroken (line : BodyLine) : '\n' ∉ line.chars := by
  cases line with
  | empty => exact List.not_mem_nil
  | step _ word written gap _ text => exact (startsLine_of_written written).unbroken_append gap text
  | remark text => exact text.unbroken

/-- No line below a header opens a scenario. -/
theorem not_opensScenario (line : BodyLine) : ¬ OpensScenario line.chars := by
  cases line with
  | empty =>
    rintro ⟨word, rest, empty, header⟩
    rw [(List.append_eq_nil_iff.mp empty.symm).1] at header
    exact absurd header (by decide)
  | step keyword word written gap _ text =>
    have apart : ∀ small ∈ headerWords, ∀ keyword : Keyword,
        ¬ small <+: keyword.text.toList.map asciiLower ∧
          ¬ keyword.text.toList.map asciiLower <+: small := by
      intro small listed keyword
      revert small
      cases keyword <;> decide
    rw [opensScenario_iff, chars, List.map_append, written]
    rintro ⟨small, listed, starts⟩
    rcases List.prefix_or_prefix_of_prefix starts (List.prefix_append _ _) with shorter | longer
    · exact (apart small listed keyword).1 shorter
    · exact (apart small listed keyword).2 longer
  | remark text noHeader => exact noHeader

/-- **Each line below a header gives what it tells.** -/
theorem told_scenarioStep? (line : BodyLine) :
    (scenarioStep? line.chars).map (fun step => (step.keyword, step.text)) = line.told := by
  cases line with
  | empty => decide
  | step keyword word written gap spaced text =>
    have read : stepLine? (word ++ (gap.chars ++ text.chars)) = some (keyword, text.chars) :=
      stepLine?_eq_some_iff.mpr
        ⟨word, gap.chars, rfl, written, ⟨spaced, gap.blank⟩, text.visible.first⟩
    rw [chars, scenarioStep?, read]
    rfl
  | remark text _ noStep =>
    rw [chars, scenarioStep?, stepLine?_eq_none noStep, told]
    simp only [descriptionLimit, gt_iff_lt]
    split
    next => rfl
    next => rfl

end BodyLine

/-! ## The lines together -/

/-- What is trimmed off a line are its margins. -/
theorem Margin.trim_between (before after : Margin) {core : List Char} (visible : Visible core) :
    trim (before.chars ++ (core ++ after.chars)) = core :=
  visible.trim_between before.blank after.blank

theorem Margin.unbroken_between (before after : Margin) {core : List Char} (unbroken : '\n' ∉ core) :
    '\n' ∉ before.chars ++ (core ++ after.chars) := by
  simp only [List.mem_append, not_or]
  exact ⟨before.unbroken, unbroken, after.unbroken⟩

theorem WrittenLine.trim_chars (line : WrittenLine) : trim line.chars = line.content.chars :=
  line.before.trim_between line.after line.content.visible

namespace WrittenScenario

variable (scenario : WrittenScenario)

/-- The lines of a scenario, trimmed. -/
theorem map_trim_lines : scenario.lines.map trim =
    scenario.header :: scenario.body.map fun line => line.content.chars := by
  have visible : Visible scenario.header :=
    scenario.isHeader.startsLine.visible scenario.gap scenario.name
  rw [lines, List.map_cons, List.map_map, scenario.before.trim_between scenario.after visible]
  exact congrArg (scenario.header :: ·) (List.map_congr_left fun line _ => line.trim_chars)

theorem unbroken_lines : ∀ line ∈ scenario.lines, '\n' ∉ line := by
  have header : '\n' ∉ scenario.header :=
    scenario.isHeader.startsLine.unbroken_append scenario.gap scenario.name
  refine List.forall_mem_cons.mpr
    ⟨scenario.before.unbroken_between scenario.after header, List.forall_mem_map.mpr ?_⟩
  exact fun line _ => line.before.unbroken_between line.after line.content.unbroken

theorem opensScenario : OpensScenario scenario.header :=
  ⟨scenario.word, scenario.gap.chars ++ scenario.name.chars, rfl, scenario.isHeader⟩

/-- The lines below the header that are looked at. -/
def below : List (List Char) :=
  (scenario.body.map fun line => line.content.chars).filter fun s => !s.isEmpty

theorem filter_map_trim_lines : (scenario.lines.map trim).filter (fun s => !s.isEmpty) =
    scenario.header :: scenario.below := by
  have nonempty : scenario.header ≠ [] := by
    simp [header, scenario.name.nonempty]
  rw [map_trim_lines, List.filter_cons_of_pos (by simpa using nonempty), below]

/-- The name of a scenario is read from its header. -/
theorem headerName?_header : headerName? scenario.header = some scenario.name.chars := by
  rw [header, headerName?_append scenario.isHeader, trimStart_append scenario.gap.blank,
    trimStart_eq_self scenario.name.visible.first]

/-- The steps that the lines below the header give. -/
def steps : List ScenarioStep :=
  scenario.body.filterMap fun line => scenarioStep? line.content.chars

/-- Lines that show nothing give no step. -/
theorem filterMap_below : scenario.below.filterMap scenarioStep? = scenario.steps := by
  have nothing : scenarioStep? [] = none := by decide
  rw [below, List.filterMap_filter, List.filterMap_map]
  refine List.filterMap_congr fun line _ => ?_
  cases shown : line.content.chars with
  | nil => simp [shown, nothing]
  | cons c s => simp [shown]

/-- **A scenario is told as it was written.** -/
theorem told_scenarioOf :
    Prose.told (scenarioOf scenario.header (lower scenario.header) scenario.steps) =
      scenario.told := by
  rw [Prose.told, scenarioOf, headerName?_header, Option.getD_some, steps, told,
    List.map_filterMap]
  exact congrArg (String.ofList scenario.name.chars, ·)
    (List.filterMap_congr fun line _ => line.content.told_scenarioStep?)

end WrittenScenario

/-- **Each header opens its scenario, and closes the one above it.** -/
theorem scenariosFrom_lines (written : List WrittenScenario) :
    scenariosFrom (written.flatMap fun s => s.header :: s.below) =
      ([], written.map fun s => scenarioOf s.header (lower s.header) s.steps) := by
  induction written with
  | nil => rfl
  | cons s written ih =>
    have body : ∀ line ∈ s.below, ¬ OpensScenario line := by
      intro line listed
      obtain ⟨own, _, rfl⟩ := List.mem_map.mp (List.mem_of_mem_filter listed)
      exact own.content.not_opensScenario
    rw [List.flatMap_cons, List.cons_append, scenariosFrom_header s.opensScenario,
      scenariosFrom_append body, ih, List.append_nil, s.filterMap_below]
    rfl

namespace ScenarioText

variable (text : ScenarioText)

theorem unbroken_lines : ∀ line ∈ text.lines, '\n' ∉ line := by
  intro line listed
  rcases List.mem_append.mp listed with leading | later
  · obtain ⟨own, _, rfl⟩ := List.mem_map.mp leading
    exact own.unbroken
  · obtain ⟨scenario, _, own⟩ := List.mem_flatMap.mp later
    exact scenario.unbroken_lines line own

theorem lines_ne_nil : text.lines ≠ [] := by
  obtain ⟨first, rest, split⟩ := List.exists_cons_of_ne_nil text.nonempty
  simp [lines, split, WrittenScenario.lines]

/-- The scenarios under the headers of the text are those that were written. -/
theorem explicitScenarios_chars : explicitScenarios text.chars =
    text.scenarios.map fun s => scenarioOf s.header (lower s.header) s.steps := by
  have shown : nonblankLines text.chars =
      ((text.leading.map LeadingLine.chars).map trim).filter (fun s => !s.isEmpty) ++
        text.scenarios.flatMap fun s => s.header :: s.below := by
    rw [chars, nonblankLines_joinWith text.lines_ne_nil text.unbroken_lines, lines,
      List.map_append, List.filter_append, List.map_flatMap, List.filter_flatMap]
    simp only [WrittenScenario.filter_map_trim_lines]
  have leading : ∀ line ∈ ((text.leading.map LeadingLine.chars).map trim).filter
      (fun s => !s.isEmpty), ¬ OpensScenario line := by
    intro line listed
    obtain ⟨_, own, rfl⟩ := List.mem_map.mp (List.mem_of_mem_filter listed)
    obtain ⟨leading, _, rfl⟩ := List.mem_map.mp own
    exact leading.noHeader
  rw [explicitScenarios, shown, scenariosFrom_append leading, scenariosFrom_lines]

/-- **Scenarios are found as they were written.** The scenarios of a text are those under its
headers, in order, with the same names. Each has the steps of its lines in order, with the same
keywords and texts. A remark below a header is lost if it has at most ten characters, and is one
`Given` step at its place otherwise. -/
theorem scenarios_of_written (story : UserStory) :
    (Prose.scenarios text.chars story).map Prose.told =
      text.scenarios.map WrittenScenario.told := by
  have some : explicitScenarios text.chars ≠ [] := by
    rw [explicitScenarios_chars, ne_eq, List.map_eq_nil_iff]
    exact text.nonempty
  have found : Prose.scenarios text.chars story = explicitScenarios text.chars := by
    rw [Prose.scenarios]
    split
    next none => exact absurd none some
    next => rfl
  rw [found, explicitScenarios_chars, List.map_map]
  exact List.map_congr_left fun scenario _ => scenario.told_scenarioOf

end ScenarioText

/-- No margin. -/
def noMargin : Margin := ⟨[], List.forall_mem_nil _, List.not_mem_nil⟩

/-- One space. -/
def oneSpace : Margin := ⟨[' '], List.forall_mem_singleton.mpr (by decide), by decide⟩

/-- A text whose names and texts look like headers and steps themselves. -/
def cartText : ScenarioText where
  leading := [⟨"Our scenario: a cart".toList, by decide, by decide⟩]
  scenarios := [
    { before := oneSpace
      word := "SCENARIO:".toList
      isHeader := by decide
      gap := noMargin
      name := ⟨"Scenario: pay".toList, by decide, by decide, by decide⟩
      after := noMargin
      body := [
        { before := oneSpace
          content := .step .but "bUT".toList (by decide) oneSpace (by decide)
            ⟨"Given: a cart".toList, by decide, by decide, by decide⟩
          after := oneSpace },
        { before := noMargin
          content := .remark ⟨"Given".toList, by decide, by decide, by decide⟩ (by decide)
            (by decide)
          after := noMargin }] }]
  nonempty := List.cons_ne_nil _ _

example : (scenarios cartText.chars default).map told =
    [("Scenario: pay", [(.but, "Given: a cart")])] := by
  decide +kernel

end TestPlanner.Prose
