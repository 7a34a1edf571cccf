import TestPlanner.Plan.Json
import TestPlanner.Proofs.Json.Record

/-!
# Plans are read back from their JSON form

Every record of a plan is an object of named fields, and is read back field by field: every name of
an enumeration stands for one value of it, an option that is left out is read as none, and a list
that is left out as empty. So a plan is read back from its JSON form, and with what is known about
the reader of texts, from either layout of it. Only counts are bounded: they are 64-bit numbers.
-/

set_option autoImplicit false

namespace TestPlanner

open Json

/-! ## Enumerations -/

theorem Keyword.choice?_text (k : Keyword) :
    choice? isNull Keyword.names (.string k.text) = some k := by
  cases k <;> rfl

theorem Action.choice?_name (a : Action) :
    choice? isNull Action.names (.string a.name) = some a := by
  cases a <;> rfl

theorem ElementKind.choice?_name (k : ElementKind) :
    choice? isNull ElementKind.names (.string k.name) = some k := by
  cases k <;> rfl

theorem Confidence.choice?_name (c : Confidence) :
    choice? isNull Confidence.names (.string c.name) = some c := by
  cases c <;> rfl

theorem StoryTier.choice?_name (t : StoryTier) :
    choice? isNull StoryTier.names (.string t.name) = some t := by
  cases t <;> rfl

theorem ScenarioKind.choice?_name (k : ScenarioKind) :
    choice? isNull ScenarioKind.names (.string k.name) = some k := by
  cases k <;> rfl

theorem StepPurpose.choice?_name (p : StepPurpose) :
    choice? isNull StepPurpose.names (.string p.name) = some p := by
  cases p <;> rfl

theorem Complexity.choice?_name (c : Complexity) :
    choice? isNull Complexity.names (.string c.name) = some c := by
  cases c <;> rfl

/-! ## Locators and steps -/

/-- The fields of a locator's JSON form. -/
def Locator.fields (l : Locator) : List (String × Option Json) :=
  [("name", some (.string l.name)), ("selector", some (.string l.selector)),
    ("type", l.kind.map fun k => .string k.name),
    ("confidence", l.confidence.map fun c => .string c.name)]

theorem Locator.toJson_eq (l : Locator) : l.toJson = .object (membersOf l.fields) := by
  simp only [toJson, fields, membersOf_some, membersOf_optional, membersOf_nil, List.append_nil,
    List.cons_append, List.nil_append]

theorem Locator.ofJson?_toJson (l : Locator) : Locator.ofJson? l.toJson = some l := by
  have found : fields? ["name", "selector", "type", "confidence"] l.toJson =
      some (l.fields.map Prod.snd) := by
    rw [l.toJson_eq]
    exact fields?_membersOf rfl (by decide)
  have kind := optional_map (o := l.kind) (fun k _ => k.choice?_name) (fun _ => nofun)
  have confidence := optional_map (o := l.confidence) (fun c _ => c.choice?_name) (fun _ => nofun)
  rw [ofJson?, found]
  simp only [fields, List.map_cons, List.map_nil, required, string?, kind, confidence]
  rfl

theorem Locator.writable_toJson (l : Locator) : l.toJson.writable = true := by
  rw [toJson_eq, writable]
  refine writableMembers_membersOf ?_
  simp [fields, writable]

/-- The fields of a step's JSON form. -/
def Step.fields (s : Step) : List (String × Option Json) :=
  [("keyword", some (.string s.keyword.text)), ("text", some (.string s.text)),
    ("actionType", s.action.map fun a => .string a.name),
    ("locatorName", s.locator.map Json.string), ("actionValue", s.value.map Json.string)]

theorem Step.toJson_eq (s : Step) : s.toJson = .object (membersOf s.fields) := by
  simp only [toJson, fields, membersOf_some, membersOf_optional, membersOf_nil, List.append_assoc,
    List.append_nil, List.cons_append, List.nil_append]

theorem Step.ofJson?_toJson (s : Step) : Step.ofJson? s.toJson = some s := by
  have found : fields? ["keyword", "text", "actionType", "locatorName", "actionValue"] s.toJson =
      some (s.fields.map Prod.snd) := by
    rw [s.toJson_eq]
    exact fields?_membersOf rfl (by decide)
  have action := optional_map (o := s.action) (fun a _ => a.choice?_name) (fun _ => nofun)
  rw [ofJson?, found]
  simp only [fields, List.map_cons, List.map_nil, required, string?, s.keyword.choice?_text, action,
    optional_string_map]
  rfl

theorem Step.writable_toJson (s : Step) : s.toJson.writable = true := by
  rw [toJson_eq, writable]
  refine writableMembers_membersOf ?_
  simp [fields, writable]

/-! ## Stories and scenarios -/

/-- The fields of a user story's JSON form. -/
def UserStory.fields (u : UserStory) : List (String × Option Json) :=
  [("actor", some (.string u.actor)), ("action", some (.string u.action)),
    ("benefit", some (.string u.benefit)), ("type", some (.string u.tier.name))]

theorem UserStory.toJson_eq (u : UserStory) : u.toJson = .object (membersOf u.fields) := rfl

theorem UserStory.ofJson?_toJson (u : UserStory) : UserStory.ofJson? u.toJson = some u := by
  have found : fields? ["actor", "action", "benefit", "type"] u.toJson =
      some (u.fields.map Prod.snd) := by
    rw [u.toJson_eq]
    exact fields?_membersOf rfl (by decide)
  rw [ofJson?, found]
  simp only [fields, List.map_cons, List.map_nil, required, string?, u.tier.choice?_name]
  rfl

theorem UserStory.writable_toJson (u : UserStory) : u.toJson.writable = true := rfl

/-- The fields of the JSON form of a scenario's step. -/
def ScenarioStep.fields (s : ScenarioStep) : List (String × Option Json) :=
  [("keyword", some (.string s.keyword.text)), ("text", some (.string s.text)),
    ("type", some (.string s.purpose.name))]

theorem ScenarioStep.toJson_eq (s : ScenarioStep) : s.toJson = .object (membersOf s.fields) := rfl

theorem ScenarioStep.ofJson?_toJson (s : ScenarioStep) :
    ScenarioStep.ofJson? s.toJson = some s := by
  have found : fields? ["keyword", "text", "type"] s.toJson = some (s.fields.map Prod.snd) := by
    rw [s.toJson_eq]
    exact fields?_membersOf rfl (by decide)
  rw [ofJson?, found]
  simp only [fields, List.map_cons, List.map_nil, required, string?, s.keyword.choice?_text,
    s.purpose.choice?_name]
  rfl

theorem ScenarioStep.writable_toJson (s : ScenarioStep) : s.toJson.writable = true := rfl

/-- The fields of a scenario's JSON form. -/
def Scenario.fields (s : Scenario) : List (String × Option Json) :=
  [("name", some (.string s.name)), ("steps", some (.array (s.steps.map ScenarioStep.toJson))),
    ("type", some (.string s.kind.name))]

theorem Scenario.toJson_eq (s : Scenario) : s.toJson = .object (membersOf s.fields) := rfl

theorem Scenario.ofJson?_toJson (s : Scenario) : Scenario.ofJson? s.toJson = some s := by
  have found : fields? ["name", "steps", "type"] s.toJson = some (s.fields.map Prod.snd) := by
    rw [s.toJson_eq]
    exact fields?_membersOf rfl (by decide)
  have steps := list?_map (l := s.steps) fun t _ => t.ofJson?_toJson
  rw [ofJson?, found]
  simp only [fields, List.map_cons, List.map_nil, required, string?, steps, s.kind.choice?_name]
  rfl

theorem Scenario.writable_toJson (s : Scenario) : s.toJson.writable = true := by
  have steps := writableItems_map (l := s.steps) fun t _ => t.writable_toJson
  simp [toJson, writable, writableMembers, steps]

/-! ## Figures about the analysis -/

/-- Whether the counts of an analysis record are 64-bit numbers. -/
def AnalysisRecord.InRange (r : AnalysisRecord) : Prop :=
  r.words < countBound ∧ r.sentences < countBound

/-- The fields of the JSON form of an analysis record. -/
def AnalysisRecord.fields (r : AnalysisRecord) : List (String × Option Json) :=
  [("analysisMethod", some (.string r.method)), ("storyTier", some (.string r.tier.name)),
    ("nlpUsed", some (.bool r.tagged)), ("wordCount", some (.nat r.words)),
    ("sentenceCount", some (.nat r.sentences)), ("complexity", some (.string r.complexity.name)),
    ("timestamp", some (.string r.timestamp))]

theorem AnalysisRecord.toJson_eq (r : AnalysisRecord) : r.toJson = .object (membersOf r.fields) :=
  rfl

theorem AnalysisRecord.ofJson?_toJson {r : AnalysisRecord} (counts : r.InRange) :
    AnalysisRecord.ofJson? r.toJson = some r := by
  have found : fields? ["analysisMethod", "storyTier", "nlpUsed", "wordCount", "sentenceCount",
      "complexity", "timestamp"] r.toJson = some (r.fields.map Prod.snd) := by
    rw [r.toJson_eq]
    exact fields?_membersOf rfl (by decide)
  rw [ofJson?, found]
  simp only [fields, List.map_cons, List.map_nil, required, string?, bool?, r.tier.choice?_name,
    natBelow?_nat counts.1, natBelow?_nat counts.2, r.complexity.choice?_name]
  rfl

theorem AnalysisRecord.writable_toJson (r : AnalysisRecord) : r.toJson.writable = true := rfl

/-! ## Plans -/

/-- Whether the counts that a plan carries are 64-bit numbers. -/
def Plan.InRange (p : Plan) : Prop := ∀ r ∈ p.record, r.InRange

/-- The fields of a plan's JSON form. -/
def Plan.fields (p : Plan) : List (String × Option Json) :=
  [("featureName", some (.string p.feature)), ("scenarioName", some (.string p.scenario)),
    ("locators", some (.array (p.locators.map Locator.toJson))),
    ("steps", some (.array (p.steps.map Step.toJson))),
    ("userStory", p.story.map UserStory.toJson),
    ("scenarios",
      if p.scenarios.isEmpty then none else some (.array (p.scenarios.map Scenario.toJson))),
    ("tags", if p.tags.isEmpty then none else some (.array (p.tags.map Json.string))),
    ("metadata", p.record.map AnalysisRecord.toJson)]

theorem Plan.toJson_eq (p : Plan) : p.toJson = .object (membersOf p.fields) := by
  have listed : ∀ (name : String) (none_left : Bool) (v : Json) fields,
      membersOf ((name, if none_left then none else some v) :: fields) =
        (if none_left then [] else [(name, v)]) ++ membersOf fields := by
    intro name none_left v fields
    cases none_left <;> rfl
  simp only [toJson, fields, membersOf_some, membersOf_optional, membersOf_nil, listed,
    List.append_assoc, List.append_nil, List.cons_append, List.nil_append]

/-- **A plan is read back from its JSON form.** -/
theorem Plan.ofJson?_toJson {p : Plan} (counts : p.InRange) : Plan.ofJson? p.toJson = some p := by
  have found : fields? ["featureName", "scenarioName", "locators", "steps", "userStory",
      "scenarios", "tags", "metadata"] p.toJson = some (p.fields.map Prod.snd) := by
    rw [p.toJson_eq]
    exact fields?_membersOf rfl (by decide)
  have locators : defaulted [] (list? Locator.ofJson?)
      (some (.array (p.locators.map Locator.toJson))) = some p.locators :=
    list?_map fun l _ => l.ofJson?_toJson
  have steps : defaulted [] (list? Step.ofJson?)
      (some (.array (p.steps.map Step.toJson))) = some p.steps :=
    list?_map fun s _ => s.ofJson?_toJson
  have story := optional_map (o := p.story) (fun u _ => u.ofJson?_toJson) (fun _ => nofun)
  have scenarios := defaulted_list? (l := p.scenarios) fun s _ => s.ofJson?_toJson
  have tags : defaulted [] (list? string?)
      (if p.tags.isEmpty then none else some (.array (p.tags.map Json.string))) = some p.tags :=
    defaulted_list? fun _ _ => rfl
  have record := optional_map (o := p.record)
    (fun r found => AnalysisRecord.ofJson?_toJson (counts r found)) (fun _ => nofun)
  rw [ofJson?, found]
  simp only [fields, List.map_cons, List.map_nil, required, string?, locators, steps,
    story, scenarios, tags, record]
  rfl

theorem Plan.writable_toJson (p : Plan) : p.toJson.writable = true := by
  have locators := writableItems_map (l := p.locators) fun l _ => l.writable_toJson
  have steps := writableItems_map (l := p.steps) fun s _ => s.writable_toJson
  have scenarios := writableItems_map (l := p.scenarios) fun s _ => s.writable_toJson
  have tags : writableItems (p.tags.map Json.string) = true := writableItems_map fun _ _ => rfl
  rw [toJson_eq, writable]
  refine writableMembers_membersOf ?_
  simp [fields, writable, locators, steps, scenarios, tags, UserStory.writable_toJson,
    AnalysisRecord.writable_toJson]

/-- **The JSON form of a plan loses nothing.** A plan is read back from its JSON form, and from the
text of it in either layout; so the text tells plans apart. -/
theorem Plan.json_lossless (p : Plan) (counts : p.InRange) :
    Plan.ofJson? p.toJson = some p ∧
      (parse? p.toJson.compact).bind Plan.ofJson? = some p ∧
      (parse? p.toJson.pretty).bind Plan.ofJson? = some p ∧
      ∀ q : Plan, q.InRange →
        q.toJson.compact = p.toJson.compact ∨ q.toJson.pretty = p.toJson.pretty → q = p := by
  have compact : ∀ q : Plan, q.InRange → (parse? q.toJson.compact).bind Plan.ofJson? = some q := by
    intro q counts
    rw [parse?_compact q.writable_toJson, Option.bind_some, Plan.ofJson?_toJson counts]
  have pretty : ∀ q : Plan, q.InRange → (parse? q.toJson.pretty).bind Plan.ofJson? = some q := by
    intro q counts
    rw [parse?_pretty q.writable_toJson, Option.bind_some, Plan.ofJson?_toJson counts]
  refine ⟨Plan.ofJson?_toJson counts, compact p counts, pretty p counts, ?_⟩
  rintro q others (same | same)
  · have read := compact q others
    rw [same, compact p counts] at read
    exact (Option.some.inj read).symm
  · have read := pretty q others
    rw [same, pretty p counts] at read
    exact (Option.some.inj read).symm

theorem Plan.json_lossless_greatest_counts :
    let r : AnalysisRecord := ⟨"", .tagged, true, countBound - 1, countBound - 1, .complex, "\n"⟩
    let p : Plan := ⟨"\"", "", [⟨"a", "b", none, some .high⟩], [.plain .but "\\"], none, [],
      ["\t", ""], some r⟩
    p.InRange ∧ Plan.ofJson? p.toJson = some p ∧
      (parse? p.toJson.compact).bind Plan.ofJson? = some p ∧
      (parse? p.toJson.pretty).bind Plan.ofJson? = some p := by
  intro r p
  have counts : p.InRange := by
    rintro s found
    obtain rfl : r = s := Option.some.inj found
    exact ⟨by decide, by decide⟩
  obtain ⟨back, compact, pretty, _⟩ := Plan.json_lossless p counts
  exact ⟨counts, back, compact, pretty⟩

end TestPlanner
