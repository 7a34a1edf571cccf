import TestPlanner.Proofs.Artifact.Script
import TestPlanner.Proofs.FirstOccurrence
import TestPlanner.Proofs.Plan.Produced

/-!
# Reading feature files

A line of a feature file is empty, or its front tells what it shows: an at sign the tags, a word of
the header or of the user story their parts, and four spaces, a keyword and a space a step
(`FeaturePart.front`). No two fronts start alike, so a line is read back from its text and nothing
else reads as it (`FeatureLine.ofLine?_eq_some_iff`).

**The file.** The lines of a feature file are those of its outline: the tags if there are any, the
feature, the user story if there is one, an empty line, the scenario, the steps, and an empty line
at the end (`Plan.outline`). Names, story and step texts are shown on one line each. Whatever line
breaks they hold, they add no line to the file, take none away, and turn none into another
(`feature_reads_back`).

**Tags** are shown as they are, so this is said of plans whose tags have no line feed. Those of
produced plans have none (`Produced.unbroken_tags`).
-/

set_option autoImplicit false

namespace TestPlanner

open Text

/-! ## Lines -/

/-- What a line of a feature file shows. -/
inductive FeaturePart where
  | tags
  | feature
  | actor
  | wish
  | benefit
  | scenario
  | step (keyword : Keyword)
  deriving DecidableEq, Repr

namespace FeaturePart

/-- What the line of a part starts with. -/
def front : FeaturePart → String
  | tags => "@"
  | feature => "Feature: "
  | actor => "  As a "
  | wish => "  I want to "
  | benefit => "  So that "
  | scenario => "  Scenario: "
  | step keyword => "    " ++ keyword.text ++ " "

/-- All parts. -/
def all : List FeaturePart :=
  [tags, feature, actor, wish, benefit, scenario] ++ Keyword.all.map step

theorem mem_all (part : FeaturePart) : part ∈ all := by
  cases part with
  | step keyword => cases keyword <;> decide
  | _ => decide

/-- No two fronts start alike. -/
theorem clash_front {part other : FeaturePart} (differ : part ≠ other) :
    Clash part.front other.front := by
  have apart : ∀ part ∈ all, ∀ other ∈ all, part ≠ other → Clash part.front other.front := by
    decide
  exact apart part (mem_all part) other (mem_all other) differ

theorem front_ne_empty (part : FeaturePart) : part.front ≠ "" := by
  have filled : ∀ part ∈ all, part.front ≠ "" := by decide
  exact filled part (mem_all part)

theorem onOneLine_front (part : FeaturePart) : OnOneLine part.front.toList := by
  have unbroken : ∀ part ∈ all, OnOneLine part.front.toList := by decide
  exact unbroken part (mem_all part)

end FeaturePart

/-- A line of a feature file. -/
inductive FeatureLine where
  | blank
  | of (part : FeaturePart) (shown : String)
  deriving DecidableEq, Repr

namespace FeatureLine

/-- A line as it is written. -/
def text : FeatureLine → String
  | blank => ""
  | of part shown => part.front ++ shown

/-- Reads a line. -/
def ofLine? (line : String) : Option FeatureLine :=
  if line = "" then some blank
  else FeaturePart.all.findSome? fun part =>
    (behind? part.front line.toList).map fun rest => of part (String.ofList rest)

/-- The keyword and the text of a step. -/
def step? : FeatureLine → Option (Keyword × String)
  | of (.step keyword) shown => some (keyword, shown)
  | _ => none

end FeatureLine

/-- **A line is read back from its text, and no other text reads as it.** -/
theorem FeatureLine.ofLine?_eq_some_iff {line : String} {l : FeatureLine} :
    ofLine? line = some l ↔ line = l.text := by
  constructor
  · intro read
    unfold ofLine? at read
    split at read
    next empty =>
      obtain rfl := Option.some.inj read
      exact empty
    next =>
      obtain ⟨part, _, found⟩ := List.exists_of_findSome?_eq_some read
      obtain ⟨rest, behind, rfl⟩ := Option.map_eq_some_iff.mp found
      exact eq_of_behind? behind
  · rintro rfl
    cases l with
    | blank => rfl
    | of part shown =>
      have filled : part.front ++ shown ≠ "" := fun empty =>
        part.front_ne_empty (String.append_eq_empty_iff.mp empty).1
      rw [ofLine?, text, if_neg filled]
      refine findSome?_of_only part.mem_all ?_ fun other _ differ => ?_
      · rw [behind?_append, Option.map_some, String.ofList_toList]
      · rw [behind?_eq_none shown (FeaturePart.clash_front differ.symm), Option.map_none]

/-! ## The outline of a plan -/

/-- The line of tags. -/
def tagOutline : List String → List FeatureLine
  | [] => []
  | tags => [.of .tags (String.intercalate " @" tags)]

/-- The lines of a user story. -/
def storyOutline : Option UserStory → List FeatureLine
  | none => []
  | some u =>
    [.of .actor (singleLine u.actor), .of .wish (singleLine u.action),
      .of .benefit (singleLine u.benefit)]

/-- The line of a step. -/
def Step.outline (s : Step) : FeatureLine := .of (.step s.keyword) (singleLine s.text)

/-- What the lines of a plan's feature file show. -/
def Plan.outline (p : Plan) : List FeatureLine :=
  tagOutline p.tags ++ [.of .feature (singleLine p.feature)] ++ storyOutline p.story ++
    [.blank, .of .scenario (singleLine p.scenario)] ++ p.steps.map Step.outline ++ [.blank]

/-- What a feature file shows in front of the steps. -/
def Plan.heading (p : Plan) : List FeatureLine :=
  tagOutline p.tags ++ [.of .feature (singleLine p.feature)] ++ storyOutline p.story ++
    [.blank, .of .scenario (singleLine p.scenario)]

theorem Plan.outline_eq (p : Plan) :
    p.outline = p.heading ++ p.steps.map Step.outline ++ [.blank] := rfl

theorem intercalate_at (tag : String) (tags : List String) :
    String.intercalate " " ((tag :: tags).map fun t => "@" ++ t) =
      "@" ++ String.intercalate " @" (tag :: tags) := by
  have marked : " @" = " " ++ "@" := by decide
  induction tags generalizing tag with
  | nil => simp
  | cons next tags ih =>
    rw [List.map_cons, List.map_cons, String.intercalate_cons_cons, ← List.map_cons, ih,
      String.intercalate_cons_cons, marked]
    simp only [String.append_assoc]

theorem map_text_tagOutline (tags : List String) :
    (tagOutline tags).map FeatureLine.text = tagLines tags := by
  cases tags with
  | nil => rfl
  | cons tag tags =>
    rw [tagLines, if_neg (by simp), intercalate_at]
    rfl

theorem map_text_storyOutline (story : Option UserStory) :
    (storyOutline story).map FeatureLine.text = storyLines story := by
  cases story with
  | none => rfl
  | some u => rfl

/-- The feature file shows every step with its keyword and its text on one line. -/
theorem map_featureLine_stepViewsAfter (before : Keyword) (steps : List Step) :
    (stepViewsAfter before steps).map StepView.featureLine =
      steps.map fun s => "    " ++ s.keyword.text ++ " " ++ singleLine s.text := by
  induction steps generalizing before with
  | nil => rfl
  | cons s steps ih =>
    rw [stepViewsAfter, List.map_cons, ih, List.map_cons]
    rfl

/-- **The lines of a feature file are those of the outline.** -/
theorem map_text_outline (p : Plan) : p.outline.map FeatureLine.text = featureLines p := by
  have header : FeatureLine.text (.of .feature (singleLine p.feature)) =
      "Feature: " ++ singleLine p.feature := rfl
  have scenario : FeatureLine.text (.of .scenario (singleLine p.scenario)) =
      "  Scenario: " ++ singleLine p.scenario := rfl
  have empty : FeatureLine.text .blank = "" := rfl
  have steps : (p.steps.map Step.outline).map FeatureLine.text =
      p.stepViews.map StepView.featureLine := by
    rw [Plan.stepViews, map_featureLine_stepViewsAfter, List.map_map]
    rfl
  simp only [Plan.outline, featureLines, List.map_append, List.map_cons, List.map_nil,
    map_text_tagOutline, map_text_storyOutline, header, scenario, empty, steps]

/-- Nothing in front of the steps is a step. -/
theorem step?_of_mem_heading {p : Plan} {l : FeatureLine} (member : l ∈ p.heading) :
    l.step? = none := by
  simp only [Plan.heading, List.mem_append, List.mem_cons, List.not_mem_nil, or_false] at member
  rcases member with ((tags | rfl) | story) | rfl | rfl
  · cases tagged : p.tags with
    | nil =>
      rw [tagged] at tags
      cases tags
    | cons tag more =>
      rw [tagged] at tags
      obtain rfl : l = _ := List.mem_singleton.mp tags
      rfl
  · rfl
  · cases told : p.story with
    | none =>
      rw [told] at story
      cases story
    | some u =>
      rw [told] at story
      simp only [storyOutline, List.mem_cons, List.not_mem_nil, or_false] at story
      rcases story with rfl | rfl | rfl
      all_goals rfl
  · rfl
  · rfl

/-- The outline shows the steps of the plan and no others. -/
theorem filterMap_step?_outline (p : Plan) :
    p.outline.filterMap FeatureLine.step? =
      p.steps.map fun s => (s.keyword, singleLine s.text) := by
  have heading : p.heading.filterMap FeatureLine.step? = [] :=
    List.filterMap_eq_nil_iff.mpr fun _ => step?_of_mem_heading
  have steps : (p.steps.map Step.outline).filterMap FeatureLine.step? =
      p.steps.map fun s => (s.keyword, singleLine s.text) := by
    rw [List.filterMap_map, ← List.filterMap_eq_map]
    rfl
  have last : [FeatureLine.blank].filterMap FeatureLine.step? = [] := rfl
  rw [p.outline_eq, List.filterMap_append, List.filterMap_append, heading, steps, last,
    List.nil_append, List.append_nil]

theorem length_outline (p : Plan) :
    p.outline.length = (if p.tags.isEmpty then 0 else 1) + (if p.story.isSome then 3 else 0) +
      p.steps.length + 4 := by
  have tags : (tagOutline p.tags).length = if p.tags.isEmpty then 0 else 1 := by
    cases p.tags with
    | nil => rfl
    | cons tag tags => rfl
  have story : (storyOutline p.story).length = if p.story.isSome then 3 else 0 := by
    cases p.story with
    | none => rfl
    | some u => rfl
  simp only [Plan.outline, List.length_append, List.length_cons, List.length_nil, List.length_map,
    tags, story]
  omega

/-- What is shown of a plan besides its tags stands on one line. -/
theorem onOneLine_of_mem_outline {p : Plan} {l : FeatureLine} (member : l ∈ p.outline) :
    l ∈ tagOutline p.tags ∨ OnOneLine l.text.toList := by
  have shown (part : FeaturePart) (s : String) :
      OnOneLine (FeatureLine.of part (singleLine s)).text.toList := by
    rw [FeatureLine.text, String.toList_append, singleLine, String.toList_ofList]
    exact onOneLine_append.mpr ⟨part.onOneLine_front, onOneLine_singleLineChars _⟩
  have blank : OnOneLine FeatureLine.blank.text.toList := by decide
  simp only [Plan.outline, List.mem_append, List.mem_cons, List.not_mem_nil, or_false] at member
  rcases member with ((((tags | rfl) | story) | rfl | rfl) | steps) | rfl
  · exact .inl tags
  · exact .inr (shown _ _)
  · cases told : p.story with
    | none =>
      rw [told] at story
      cases story
    | some u =>
      rw [told] at story
      simp only [storyOutline, List.mem_cons, List.not_mem_nil, or_false] at story
      rcases story with rfl | rfl | rfl
      all_goals exact .inr (shown _ _)
  · exact .inr blank
  · exact .inr (shown _ _)
  · obtain ⟨s, _, rfl⟩ := List.mem_map.mp steps
    exact .inr (shown _ _)
  · exact .inr blank

theorem unbroken_intercalate {separator : String} (between : Unbroken separator)
    {parts : List String} (each : ∀ part ∈ parts, Unbroken part) :
    Unbroken (String.intercalate separator parts) := by
  induction parts with
  | nil => exact List.not_mem_nil
  | cons first parts ih =>
    have rest := ih fun part later => each part (List.mem_cons_of_mem first later)
    cases parts with
    | nil =>
      rw [String.intercalate_singleton]
      exact each first List.mem_cons_self
    | cons next parts =>
      rw [String.intercalate_cons_cons, unbroken_append, unbroken_append]
      exact ⟨⟨each first List.mem_cons_self, between⟩, rest⟩

/-- A line of tags has no line feed if the tags have none. -/
theorem unbroken_of_mem_tagLines {tags : List String} (tagged : ∀ t ∈ tags, Unbroken t) :
    ∀ line ∈ tagLines tags, Unbroken line := by
  intro line member
  unfold tagLines at member
  split at member
  next => cases member
  next =>
    rw [List.mem_singleton.mp member]
    refine unbroken_intercalate (by decide) fun part listed => ?_
    obtain ⟨t, own, rfl⟩ := List.mem_map.mp listed
    exact unbroken_append.mpr ⟨by decide, tagged t own⟩

/-- If the tags have no line feed, no line has one of its own. -/
theorem unbroken_of_mem_outline {p : Plan} (tagged : ∀ t ∈ p.tags, Unbroken t) {l : FeatureLine}
    (member : l ∈ p.outline) : Unbroken l.text := by
  rcases onOneLine_of_mem_outline member with tags | plain
  · refine unbroken_of_mem_tagLines tagged _ ?_
    rw [← map_text_tagOutline]
    exact List.mem_map_of_mem tags
  · exact fun feed => absurd (plain _ feed) (by decide)

/-- **The lines of a feature file are read back from its text.** -/
theorem linesOf_renderFeature {p : Plan} (tagged : ∀ t ∈ p.tags, Unbroken t) :
    linesOf (renderFeature p) = p.outline.map FeatureLine.text := by
  rw [renderFeature, ← map_text_outline]
  refine linesOf_joinLines (by simp [Plan.outline]) fun line member => ?_
  obtain ⟨l, listed, rfl⟩ := List.mem_map.mp member
  exact unbroken_of_mem_outline tagged listed

/-- The tags of produced plans have no line feeds. -/
theorem Produced.unbroken_tags {p : Plan} (produced : Produced p) : ∀ t ∈ p.tags, Unbroken t := by
  cases produced with
  | prose text feature marker timestamp =>
    have table : ∀ rule ∈ Prose.tagRules, Unbroken rule.1 := by decide
    intro tag member
    obtain ⟨rule, earned, rfl⟩ := List.mem_map.mp member
    exact table rule (List.mem_filter.mp earned).1
  | enacted enacted =>
    have none : p.tags = [] := by
      cases enacted with
      | screenshot feature fileName fields p made =>
        obtain ⟨_, rfl⟩ := Screenshot.plan?_eq_some_iff.mp made
        rfl
      | recording start feature calls => rfl
    rw [none]
    exact List.forall_mem_nil _

/-- **A feature file is read back, whatever its texts hold.** For a plan whose tags have no line
feed:

- The lines of the file are those of the outline, and each is read back as what it shows.
- The lines that read as steps are the steps of the plan, in order, with their keywords and their
  texts on one line.
- How many lines there are depends on no text: besides the steps there are four lines, one more if
  there are tags, and three more if there is a user story.
- Besides the tags, no line has a line break of any kind.

The tags of produced plans have no line feed. -/
theorem feature_reads_back {p : Plan} (tagged : ∀ t ∈ p.tags, Unbroken t) :
    let lines := linesOf (renderFeature p)
    lines = p.outline.map FeatureLine.text ∧
    lines.map FeatureLine.ofLine? = p.outline.map some ∧
    (lines.filterMap fun line => (FeatureLine.ofLine? line).bind FeatureLine.step?) =
      p.steps.map (fun s => (s.keyword, singleLine s.text)) ∧
    lines.length = (if p.tags.isEmpty then 0 else 1) + (if p.story.isSome then 3 else 0) +
      p.steps.length + 4 ∧
    (∀ line ∈ lines, line ∈ tagLines p.tags ∨ OnOneLine line.toList) ∧
    (∀ q, Produced q → ∀ t ∈ q.tags, Unbroken t) := by
  intro lines
  have form : lines = p.outline.map FeatureLine.text := linesOf_renderFeature tagged
  clear_value lines
  subst form
  have back : ∀ l : FeatureLine, FeatureLine.ofLine? l.text = some l := fun l =>
    FeatureLine.ofLine?_eq_some_iff.mpr rfl
  refine ⟨rfl, ?read, ?steps, ?count, ?plain, fun q produced => produced.unbroken_tags⟩
  case read =>
    rw [List.map_map]
    exact List.map_congr_left fun l _ => back l
  case steps =>
    rw [List.filterMap_map, ← filterMap_step?_outline]
    refine List.filterMap_congr fun l _ => ?_
    rw [Function.comp_apply, back l, Option.bind_some]
  case count => rw [List.length_map, length_outline]
  case plain =>
    intro line member
    obtain ⟨l, listed, rfl⟩ := List.mem_map.mp member
    refine (onOneLine_of_mem_outline listed).imp_left fun tags => ?_
    rw [← map_text_tagOutline]
    exact List.mem_map_of_mem tags

/-- A plan whose names, story and steps hold line breaks and the beginnings of other lines. -/
theorem feature_reads_back_disguised :
    let p : Plan := { Plan.named "Shop\n    Then it is done" "Adding\r\n\r\n  Scenario: Other" with
      tags := ["smoke", "@admin Feature: None"]
      story := some ⟨"user\n  So that nothing happens", "\nbuy", "\r", .formal⟩
      steps := [.navigate "I am on the application\n    And I am lost" none,
        .plain .but "\n  Feature: Shop \n\r", .plain .then ""] }
    let lines := linesOf (renderFeature p)
    (∀ t ∈ p.tags, Unbroken t) ∧ lines.length = 11 ∧
      lines.map FeatureLine.ofLine? = [some (.of .tags "smoke @@admin Feature: None"),
        some (.of .feature "Shop Then it is done"),
        some (.of .actor "user So that nothing happens"),
        some (.of .wish "buy"), some (.of .benefit ""), some .blank,
        some (.of .scenario "Adding Scenario: Other"),
        some (.of (.step .given) "I am on the application And I am lost"),
        some (.of (.step .but) "Feature: Shop"), some (.of (.step .then) ""), some .blank] := by
  intro p lines
  have tagged : ∀ t ∈ p.tags, Unbroken t := by decide
  obtain ⟨_, read, _, count, _⟩ := feature_reads_back tagged
  refine ⟨tagged, count, read.trans ?_⟩
  decide +kernel

end TestPlanner
