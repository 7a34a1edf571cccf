import TestPlanner.CommandLine.Run
import TestPlanner.Proofs.Configuration.Choice
import TestPlanner.Proofs.Files.Directories
import TestPlanner.Proofs.Text.Utf8

/-!
# Stored configurations

A configuration is saved as its document, behind the making of the directory for it, and loaded from
whatever text the file holds. What is written is there (`get?_of_write`) and a document is read back
as its configuration, so what was saved is loaded again, whatever its strings hold and whichever
options are absent.

A file need not have been saved. If its text is a TOML document that sets a choice of settings, that
choice is loaded, filled up with the defaults (`loadConfiguration_of_setIn`).
-/

set_option autoImplicit false

namespace TestPlanner.CommandLine

open Files (Workspace)

variable {w w' : Workspace} {path : String}

/-! ## Loading -/

/-- A path whose text can be read names something. -/
theorem has_of_readText {text : String} (read : w.readText path = .ok text) :
    w.has path = true := by
  unfold Workspace.readText Workspace.read at read
  unfold Workspace.has
  cases entry : w.get? path with
  | ok e => rfl
  | error fault =>
    rw [entry] at read
    cases read

theorem loadConfiguration_of_readText {text : String} (read : w.readText path = .ok text) :
    loadConfiguration w path =
      (Configuration.parse? text).elim (.error .badConfiguration) .ok := by
  rw [loadConfiguration, if_pos (has_of_readText read), read]
  cases parsed : Configuration.parse? text with
  | none => simp only [parsed, Option.elim_none]
  | some c => simp only [parsed, Option.elim_some]

/-- **A file that sets a choice of settings is loaded as that choice,** filled up with the
defaults. -/
theorem loadConfiguration_of_setIn {choice : ConfigurationChoice} {text : String}
    {entries : List (String × Toml)} (read : w.readText path = .ok text)
    (document : Toml.parse? text = some entries) (set : choice.SetIn entries) :
    loadConfiguration w path = .ok choice.filled := by
  rw [loadConfiguration_of_readText read, Configuration.parse?, document, Option.bind_some,
    Configuration.ofToml?_of_setIn set, Option.elim_some]

/-! ## Saving -/

/-- A text that was written is read. -/
theorem readText_of_write {text : String} (written : w.write path text.toUTF8 = .ok w') :
    w'.readText path = .ok text := by
  obtain ⟨p, located, present⟩ := Workspace.get?_of_write written
  rw [Workspace.readText, Workspace.read_of_locate located present]
  simp only [Text.Utf8.decode?_toUTF8]

/-- Saving makes directories and then writes the document. -/
theorem saveConfiguration_eq_none {c : Configuration}
    (saved : saveConfiguration c w path = (none, w')) :
    ∃ w₁, w.makeDirectories ((Files.parent? path).getD "") = (none, w₁) ∧
      w₁.write path c.document.toUTF8 = .ok w' := by
  unfold saveConfiguration at saved
  split at saved
  next => cases saved
  next w₁ made =>
    refine ⟨w₁, made, ?_⟩
    split at saved
    next written =>
      rw [written]
      exact congrArg Except.ok (Prod.mk.inj saved).2
    next => cases saved

/-- **What was saved is loaded again.** -/
theorem loadConfiguration_of_save {c : Configuration}
    (saved : saveConfiguration c w path = (none, w')) : loadConfiguration w' path = .ok c := by
  obtain ⟨w₁, _, written⟩ := saveConfiguration_eq_none saved
  rw [loadConfiguration_of_readText (readText_of_write written), c.parse?_document,
    Option.elim_some]

/-- What is written does not decide whether it can be. -/
theorem write_error_iff (content content' : ByteArray) (fault : FileFault) :
    w.write path content = .error fault ↔ w.write path content' = .error fault := by
  unfold Workspace.write
  split
  next =>
    split
    next => exact Iff.rfl
    next => exact iff_of_false nofun nofun
    next =>
      split
      next => exact iff_of_false nofun nofun
      next => exact Iff.rfl
      next => exact Iff.rfl
  next => exact Iff.rfl

/-- Whether a configuration can be saved depends on the path only. -/
theorem fst_saveConfiguration (c c' : Configuration) (w : Workspace) (path : String) :
    (saveConfiguration c w path).1 = (saveConfiguration c' w path).1 := by
  unfold saveConfiguration
  split
  next => rfl
  next w₁ _ =>
    cases result : w₁.write path c.document.toUTF8 with
    | error fault =>
      rw [(write_error_iff _ c'.document.toUTF8 fault).mp result]
    | ok w₂ =>
      cases result' : w₁.write path c'.document.toUTF8 with
      | error fault =>
        rw [(write_error_iff _ c.document.toUTF8 fault).mp result'] at result
        cases result
      | ok w₃ => rfl

/-- **Over a file that is there, every configuration can be saved.** -/
theorem exists_save_of_file {content : ByteArray} (existing : w.get? path = .ok (.file content))
    (c : Configuration) : ∃ w', saveConfiguration c w path = (none, w') := by
  obtain ⟨p, located, _⟩ := Workspace.get?_eq_ok_iff.mp existing
  have made : w.makeDirectories ((Files.parent? path).getD "") = (none, w) := by
    refine Workspace.makeDirectories_of_isDirectory ?_
    cases above : Files.parent? path with
    | none => exact .inl rfl
    | some parent => exact Workspace.isDirectory_parent located above
  obtain ⟨w', written⟩ := Workspace.exists_write_of_file existing c.document.toUTF8
  refine ⟨w', ?_⟩
  rw [saveConfiguration, made]
  simp only [written]

/-! ## Both together -/

/-- **Configurations survive in files.** Whether one can be saved does not depend on it, and if it
was saved, it is loaded again as it was; a document that sets some of the settings is loaded with
these settings and the defaults of the others. -/
theorem configurations_survive :
    (∀ (c c' : Configuration) (w : Workspace) (path : String),
      (saveConfiguration c w path).1 = (saveConfiguration c' w path).1) ∧
    (∀ (c : Configuration) (w w' : Workspace) (path : String),
      saveConfiguration c w path = (none, w') → loadConfiguration w' path = .ok c) ∧
    ∀ (choice : ConfigurationChoice) (w : Workspace) (path text : String)
      (entries : List (String × Toml)), w.readText path = .ok text →
      Toml.parse? text = some entries → choice.SetIn entries →
      loadConfiguration w path = .ok choice.filled :=
  ⟨fun c c' w path => fst_saveConfiguration c c' w path,
    fun _ _ _ _ saved => loadConfiguration_of_save saved,
    fun _ _ _ _ _ read document set => loadConfiguration_of_setIn read document set⟩

/-- The sections of a file with some of the settings, and a key that is none of them. -/
def partialSections : Toml.Sections :=
  [("recording", [("browser", .string "firefox"), ("slow", .integer 3)]),
    ("image", [("detector_command", stringArray ["python3", "scan.py"])])]

/-- The entries of the file. -/
def partialEntries : List (String × Toml) :=
  [("output_root", Toml.string "generated")] ++ partialSections.entries

/-- The choice of settings that the file makes. -/
def partialChoice : ConfigurationChoice where
  outputRoot := some "generated"
  recording := ⟨none, some .firefox, none, none, none, none⟩
  text := ⟨none, none⟩
  image := ⟨some ["python3", "scan.py"]⟩

/-- A workspace with the file. -/
def partialWorkspace : Workspace :=
  ⟨⟨[(["plan.toml"], .file (Toml.document partialEntries).toUTF8)]⟩, []⟩

/-- A configuration with quotes, a backslash and a line break in its strings. -/
def quotedConfiguration : Configuration where
  outputRoot := "it's \"here\""
  recording := { RecordingSettings.default with driverDirectory := some "a\nb\\c" }
  text := .default
  image := ⟨["scan", ""]⟩

theorem configurations_survive_partialWorkspace :
    (∃ w', saveConfiguration quotedConfiguration partialWorkspace "plan.toml" = (none, w') ∧
      loadConfiguration w' "plan.toml" = .ok quotedConfiguration) ∧
    partialWorkspace.readText "plan.toml" = .ok (Toml.document partialEntries) ∧
    Toml.parse? (Toml.document partialEntries) = some partialEntries ∧
    partialChoice.SetIn partialEntries ∧
    loadConfiguration partialWorkspace "plan.toml" =
      .ok ⟨"generated", ⟨none, .firefox, "node", none, 1280, 720⟩,
        ⟨false, ["txt", "md", "json", "yml", "yaml"]⟩, ⟨["python3", "scan.py"]⟩⟩ := by
  have existing : partialWorkspace.get? "plan.toml" =
      .ok (.file (Toml.document partialEntries).toUTF8) := rfl
  obtain ⟨w', saved⟩ := exists_save_of_file existing quotedConfiguration
  have read : partialWorkspace.readText "plan.toml" = .ok (Toml.document partialEntries) := by
    rw [Workspace.readText, Workspace.read, existing]
    simp only [Text.Utf8.decode?_toUTF8]
  have document : Toml.parse? (Toml.document partialEntries) = some partialEntries := by
    have recording : Toml.Flat [("browser", .string "firefox"), ("slow", .integer 3)] := by
      refine flat_of_keys (.refl ["browser", "slow"]) (by decide) (by decide) ?_
      rw [List.forall_mem_cons, List.forall_mem_singleton]
      exact ⟨.string _, .integer (by decide) (by decide)⟩
    have flats : ∀ e ∈ partialSections, Toml.Flat e.2 := by
      rw [partialSections, List.forall_mem_cons, List.forall_mem_singleton]
      exact ⟨recording, ImageSettings.flat_entries ⟨["python3", "scan.py"]⟩⟩
    exact Toml.parse?_document (flat_outputRoot _) (by decide) flats (by decide)
  have set : partialChoice.SetIn partialEntries :=
    ⟨rfl, .inl ⟨_, rfl, rfl, rfl, rfl, rfl, rfl, rfl⟩, .inr ⟨rfl, rfl, rfl⟩, .inl ⟨_, rfl, ⟨rfl⟩⟩⟩
  exact ⟨⟨w', saved, configurations_survive.2.1 _ _ _ _ saved⟩, read, document, set,
    configurations_survive.2.2 _ _ _ _ _ read document set⟩

end TestPlanner.CommandLine
