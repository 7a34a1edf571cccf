import TestPlanner.Configuration.Toml
import TestPlanner.Proofs.Json.Record
import TestPlanner.Proofs.Toml.Document

/-!
# Choices of settings

A configuration file chooses some of the settings and leaves the others at their defaults. A
**choice** says which settings are chosen and to what (`ConfigurationChoice`); the entries of a file
**set** it if every known key is there exactly if its setting is chosen, with the chosen value, at
the top and in the sections (`ConfigurationChoice.SetIn`). Entries with other keys do not count.

What is read from entries that set a choice is the choice filled up with the defaults
(`ofToml?_of_setIn`). A configuration is itself a choice, of everything but the options that are
absent. Its own entries set that choice, and nothing is left to fill up; so a configuration is read
back from its document (`parse?_document`), an absent option being one whose default is absence.
-/

set_option autoImplicit false

namespace TestPlanner

open Toml

/-! ## Choices -/

/-- Recording settings of which some are chosen. -/
structure RecordingChoice where
  startUrl : Option String
  browser : Option Browser
  nodeBinary : Option String
  driverDirectory : Option String
  viewportWidth : Option UInt32
  viewportHeight : Option UInt32

/-- Text settings of which some are chosen. -/
structure TextChoice where
  useMarking : Option Bool
  allowedExtensions : Option (List String)

/-- Image settings that may be chosen. -/
structure ImageChoice where
  detectorCommand : Option (List String)

/-- A configuration of which some settings are chosen. -/
structure ConfigurationChoice where
  outputRoot : Option String
  recording : RecordingChoice
  text : TextChoice
  image : ImageChoice

/-- The chosen recording settings, and the defaults of the others. -/
def RecordingChoice.filled (c : RecordingChoice) : RecordingSettings where
  startUrl := c.startUrl
  browser := c.browser.getD .chromium
  nodeBinary := c.nodeBinary.getD "node"
  driverDirectory := c.driverDirectory
  viewportWidth := c.viewportWidth.getD 1280
  viewportHeight := c.viewportHeight.getD 720

/-- The chosen text settings, and the defaults of the others. -/
def TextChoice.filled (c : TextChoice) : TextSettings where
  useMarking := c.useMarking.getD false
  allowedExtensions := c.allowedExtensions.getD ["txt", "md", "json", "yml", "yaml"]

/-- The chosen image settings, and the defaults of the others. -/
def ImageChoice.filled (c : ImageChoice) : ImageSettings where
  detectorCommand := c.detectorCommand.getD []

/-- The chosen settings, and the defaults of the others. -/
def ConfigurationChoice.filled (c : ConfigurationChoice) : Configuration where
  outputRoot := c.outputRoot.getD "output"
  recording := c.recording.filled
  text := c.text.filled
  image := c.image.filled

/-! ## Entries that set a choice -/

/-- The TOML form of a list of strings. -/
def stringArray (items : List String) : Toml := .array (items.map Toml.string)

/-- Every key of the recording settings is there with its chosen value, or not there. -/
structure RecordingChoice.SetIn (c : RecordingChoice) (entries : List (String × Toml)) : Prop where
  startUrl : entries.lookup "start_url" = c.startUrl.map .string
  browser : entries.lookup "browser" = c.browser.map fun b => .string b.name
  nodeBinary : entries.lookup "node_binary" = c.nodeBinary.map .string
  driverDirectory : entries.lookup "driver_dir" = c.driverDirectory.map .string
  viewportWidth : entries.lookup "viewport_width" = c.viewportWidth.map fun n => .integer n.toNat
  viewportHeight :
    entries.lookup "viewport_height" = c.viewportHeight.map fun n => .integer n.toNat

/-- Every key of the text settings is there with its chosen value, or not there. -/
structure TextChoice.SetIn (c : TextChoice) (entries : List (String × Toml)) : Prop where
  useMarking : entries.lookup "use_nlp" = c.useMarking.map .boolean
  allowedExtensions : entries.lookup "allowed_extensions" = c.allowedExtensions.map stringArray

/-- The key of the image settings is there with its chosen value, or not there. -/
structure ImageChoice.SetIn (c : ImageChoice) (entries : List (String × Toml)) : Prop where
  detectorCommand : entries.lookup "detector_command" = c.detectorCommand.map stringArray

/-- A section is a table whose entries are as they should be, or is left out where it might as well
be empty. -/
def SectionSets (sets : List (String × Toml) → Prop) (value : Option Toml) : Prop :=
  (∃ entries, value = some (.table entries) ∧ sets entries) ∨ (value = none ∧ sets [])

/-- Every key of the configuration and of its sections is there with its chosen value, or not
there. -/
structure ConfigurationChoice.SetIn (c : ConfigurationChoice) (entries : List (String × Toml)) :
    Prop where
  outputRoot : entries.lookup "output_root" = c.outputRoot.map .string
  recording : SectionSets c.recording.SetIn (entries.lookup "recording")
  text : SectionSets c.text.SetIn (entries.lookup "text")
  image : SectionSets c.image.SetIn (entries.lookup "image")

/-! ## One setting -/

section Settings

universe u

variable {α : Type u} {read : Toml → Option α} {write : α → Toml}

theorem settingOr_map (back : ∀ a, read (write a) = some a) (default : α) (chosen : Option α) :
    settingOr default read (chosen.map write) = some (chosen.getD default) := by
  cases chosen with
  | none => rfl
  | some a => exact back a

theorem optionalSetting_map (back : ∀ a, read (write a) = some a) (chosen : Option α) :
    optionalSetting read (chosen.map write) = some chosen := by
  cases chosen with
  | none => rfl
  | some a => rw [Option.map_some, optionalSetting, back a, Option.map_some]

/-- A section is read, or left at its default, which is what an empty one is read as. -/
theorem settingOr_section {sets : List (String × Toml) → Prop} {filled default : α}
    (reads : ∀ entries, sets entries → read (.table entries) = some filled)
    (empty : read (.table []) = some default) {value : Option Toml}
    (present : SectionSets sets value) : settingOr default read value = some filled := by
  rcases present with ⟨entries, rfl, set⟩ | ⟨rfl, set⟩
  · exact reads entries set
  · rw [settingOr, ← empty, reads [] set]

end Settings

theorem asString?_string (s : String) : asString? (.string s) = some s := rfl

theorem asBool?_boolean (b : Bool) : asBool? (.boolean b) = some b := rfl

theorem asWord?_integer (n : UInt32) : asWord? (.integer n.toNat) = some n := by
  have below : n.toNat < 4294967296 := n.toNat_lt
  have range : (0 ≤ (n.toNat : Int) && (n.toNat : Int) < 4294967296) = true := by
    simp only [Bool.and_eq_true, decide_eq_true_eq]
    omega
  rw [asWord?, if_pos range, Int.toNat_natCast, UInt32.ofNat_toNat]

theorem asChoice?_name (b : Browser) : asChoice? Browser.names (.string b.name) = some b := by
  cases b <;> decide

theorem asStrings?_stringArray (items : List String) :
    asStrings? (stringArray items) = some items := by
  have read : (items.map Toml.string).mapM asString? = some (items.map id) :=
    Json.mapM_map_eq_some fun s _ => asString?_string s
  rw [List.map_id] at read
  exact read

/-! ## Reading what is set -/

theorem RecordingSettings.ofToml?_of_setIn {c : RecordingChoice} {entries : List (String × Toml)}
    (set : c.SetIn entries) : RecordingSettings.ofToml? (.table entries) = some c.filled := by
  simp only [RecordingSettings.ofToml?, settings?, List.map_cons, List.map_nil, set.startUrl,
    set.browser, set.nodeBinary, set.driverDirectory, set.viewportWidth, set.viewportHeight,
    optionalSetting_map asString?_string, settingOr_map asChoice?_name,
    settingOr_map asString?_string, settingOr_map asWord?_integer]
  rfl

theorem TextSettings.ofToml?_of_setIn {c : TextChoice} {entries : List (String × Toml)}
    (set : c.SetIn entries) : TextSettings.ofToml? (.table entries) = some c.filled := by
  simp only [TextSettings.ofToml?, settings?, List.map_cons, List.map_nil, set.useMarking,
    set.allowedExtensions, settingOr_map asBool?_boolean, settingOr_map asStrings?_stringArray]
  rfl

theorem ImageSettings.ofToml?_of_setIn {c : ImageChoice} {entries : List (String × Toml)}
    (set : c.SetIn entries) : ImageSettings.ofToml? (.table entries) = some c.filled := by
  simp only [ImageSettings.ofToml?, settings?, List.map_cons, List.map_nil, set.detectorCommand,
    settingOr_map asStrings?_stringArray]
  rfl

/-- **What is chosen is read, and all else has its default.** -/
theorem Configuration.ofToml?_of_setIn {c : ConfigurationChoice} {entries : List (String × Toml)}
    (set : c.SetIn entries) : Configuration.ofToml? (.table entries) = some c.filled := by
  have recording : settingOr default.recording RecordingSettings.ofToml?
      (entries.lookup "recording") = some c.recording.filled :=
    settingOr_section (fun _ => RecordingSettings.ofToml?_of_setIn) rfl set.recording
  have text : settingOr default.text TextSettings.ofToml? (entries.lookup "text") =
      some c.text.filled :=
    settingOr_section (fun _ => TextSettings.ofToml?_of_setIn) rfl set.text
  have image : settingOr default.image ImageSettings.ofToml? (entries.lookup "image") =
      some c.image.filled :=
    settingOr_section (fun _ => ImageSettings.ofToml?_of_setIn) rfl set.image
  simp only [Configuration.ofToml?, settings?, List.map_cons, List.map_nil, set.outputRoot,
    settingOr_map asString?_string, recording, text, image]
  rfl

/-! ## Configurations as choices -/

/-- The choice of all recording settings but the options that are absent. -/
def RecordingSettings.choice (r : RecordingSettings) : RecordingChoice where
  startUrl := r.startUrl
  browser := some r.browser
  nodeBinary := some r.nodeBinary
  driverDirectory := r.driverDirectory
  viewportWidth := some r.viewportWidth
  viewportHeight := some r.viewportHeight

/-- The choice of all settings but the options that are absent. -/
def Configuration.choice (c : Configuration) : ConfigurationChoice where
  outputRoot := some c.outputRoot
  recording := c.recording.choice
  text := ⟨some c.text.useMarking, some c.text.allowedExtensions⟩
  image := ⟨some c.image.detectorCommand⟩

/-- **Nothing is left to fill up:** the default of an option is that it is absent. -/
theorem Configuration.filled_choice (c : Configuration) : c.choice.filled = c := rfl

theorem RecordingSettings.setIn_entries (r : RecordingSettings) : r.choice.SetIn r.entries := by
  obtain ⟨url, browser, node, directory, width, height⟩ := r
  cases url <;> cases directory <;> exact ⟨rfl, rfl, rfl, rfl, rfl, rfl⟩

theorem Configuration.setIn_entries (c : Configuration) : c.choice.SetIn c.entries where
  outputRoot := rfl
  recording := .inl ⟨c.recording.entries, rfl, c.recording.setIn_entries⟩
  text := .inl ⟨c.text.entries, rfl, rfl, rfl⟩
  image := .inl ⟨c.image.entries, rfl, ⟨rfl⟩⟩

/-! ## Entries that can be stored -/

theorem storable_word (n : UInt32) : Storable nestingLimit (.integer n.toNat) := by
  have below : n.toNat < 4294967296 := n.toNat_lt
  exact .integer (by omega) (by omega)

theorem storable_stringArray (items : List String) :
    Storable nestingLimit (stringArray items) := by
  refine .array fun v member => ?_
  obtain ⟨s, _, rfl⟩ := List.mem_map.mp member
  exact .string s

/-- An optional setting has its key or none. -/
theorem entryIfSome_sublist (key : String) (o : Option String) :
    ((entryIfSome key o).map Prod.fst).Sublist [key] := by
  cases o with
  | none => exact List.nil_sublist _
  | some s => exact List.Sublist.refl _

theorem storable_entryIfSome {key : String} {o : Option String} :
    ∀ e ∈ entryIfSome key o, Storable nestingLimit e.2 := by
  cases o with
  | none => exact fun _ member => nomatch member
  | some s =>
    intro e member
    obtain rfl := List.mem_singleton.mp member
    exact .string s

/-- Entries are flat if their keys are some of a list of bare keys in order. -/
theorem flat_of_keys {entries : List (String × Toml)} {keys : List String}
    (some_of : (entries.map Prod.fst).Sublist keys) (bare : ∀ key ∈ keys, IsBare key)
    (distinct : keys.Nodup) (storable : ∀ e ∈ entries, Storable nestingLimit e.2) :
    Flat entries :=
  ⟨fun _ member => bare _ (some_of.subset (List.mem_map_of_mem member)),
    distinct.sublist some_of, storable⟩

theorem RecordingSettings.flat_entries (r : RecordingSettings) : Flat r.entries := by
  have keys : (r.entries.map Prod.fst).Sublist
      (["start_url"] ++ ["browser", "node_binary"] ++ ["driver_dir"]
        ++ ["viewport_width", "viewport_height"]) := by
    rw [entries, List.map_append, List.map_append, List.map_append]
    exact (((entryIfSome_sublist _ _).append (.refl _)).append (entryIfSome_sublist _ _)).append
      (.refl _)
  refine flat_of_keys keys (by decide) (by decide) ?_
  simp only [entries, List.forall_mem_append, List.forall_mem_cons]
  exact ⟨⟨⟨storable_entryIfSome, .string _, .string _, nofun⟩, storable_entryIfSome⟩,
    storable_word _, storable_word _, nofun⟩

theorem TextSettings.flat_entries (t : TextSettings) : Flat t.entries := by
  refine flat_of_keys (.refl ["use_nlp", "allowed_extensions"]) (by decide) (by decide) ?_
  simp only [entries, List.forall_mem_cons]
  exact ⟨.boolean _, storable_stringArray _, nofun⟩

theorem ImageSettings.flat_entries (i : ImageSettings) : Flat i.entries := by
  refine flat_of_keys (.refl ["detector_command"]) (by decide) (by decide) ?_
  simp only [entries, List.forall_mem_cons]
  exact ⟨storable_stringArray _, nofun⟩

/-- The sections of a configuration file. -/
def Configuration.sections (c : Configuration) : Sections :=
  [("recording", c.recording.entries), ("text", c.text.entries), ("image", c.image.entries)]

theorem Configuration.entries_eq (c : Configuration) :
    c.entries = [("output_root", Toml.string c.outputRoot)] ++ c.sections.entries := rfl

theorem flat_outputRoot (root : String) : Flat [("output_root", Toml.string root)] := by
  refine flat_of_keys (.refl ["output_root"]) (by decide) (by decide) ?_
  rw [List.forall_mem_cons]
  exact ⟨.string _, nofun⟩

theorem Configuration.bare_sections (c : Configuration) : ∀ e ∈ c.sections, IsBare e.1 := by
  simp only [sections, List.forall_mem_cons]
  exact ⟨by decide, by decide, by decide, nofun⟩

theorem Configuration.flat_sections (c : Configuration) : ∀ e ∈ c.sections, Flat e.2 := by
  simp only [sections, List.forall_mem_cons]
  exact ⟨c.recording.flat_entries, c.text.flat_entries, c.image.flat_entries, nofun⟩

/-- **A configuration is read back from its document.** -/
theorem Configuration.parse?_document (c : Configuration) : parse? c.document = some c := by
  have apart : ["output_root", "recording", "text", "image"].Nodup := by decide
  have stored : Toml.parse? (Toml.document c.entries) = some c.entries := by
    rw [c.entries_eq]
    exact Toml.parse?_document (flat_outputRoot _) c.bare_sections c.flat_sections apart
  rw [parse?, document, stored, Option.bind_some, ofToml?_of_setIn c.setIn_entries, filled_choice]

end TestPlanner
