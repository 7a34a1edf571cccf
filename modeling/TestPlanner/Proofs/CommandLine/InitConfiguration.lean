import TestPlanner.Proofs.Configuration.Stored

/-!
# Initialising over a file

`config init` writes the default configuration, over an existing file only by force. Every command
first loads the configuration, though, and this one is no exception: what it is about to replace
must itself be a configuration, or the command does not come to it.

So over an existing file the command succeeds exactly by force and if the old content is a
configuration (`init_succeeds_iff`). Whenever it fails, nothing has changed, and whenever it
succeeds, the file is loaded as the default configuration. Without force an existing file is
therefore always protected; with force it is not always restored (`forced_init_refused`): a file
that has been spoilt stays as it is.
-/

set_option autoImplicit false

namespace TestPlanner.CommandLine

open Files (Workspace)

variable {s : Surroundings} {w : Workspace} {i : Invocation} {content : ByteArray} {force : Bool}

/-! ## Loading an existing file -/

/-- The configuration that bytes hold: a text, a TOML document, and settings of the right kinds. -/
def storedConfiguration? (content : ByteArray) : Option Configuration :=
  (Text.Utf8.decode? content).bind Configuration.parse?

theorem has_of_file {path : String} (existing : w.get? path = .ok (.file content)) :
    w.has path = true := by
  rw [Workspace.has, existing]
  rfl

/-- A file is loaded exactly if its bytes hold a configuration. -/
theorem loadConfiguration_of_file {path : String} (existing : w.get? path = .ok (.file content)) :
    (∃ c, storedConfiguration? content = some c ∧ loadConfiguration w path = .ok c) ∨
      (storedConfiguration? content = none ∧ ∃ f, loadConfiguration w path = .error f) := by
  have bytes : w.read path = .ok content := by
    rw [Workspace.read, existing]
  cases decoded : Text.Utf8.decode? content with
  | none =>
    have unread : w.readText path = .error .notText := by
      rw [Workspace.readText, bytes]
      simp only [decoded]
    refine .inr ⟨by rw [storedConfiguration?, decoded, Option.bind_none], .file .notText, ?_⟩
    rw [loadConfiguration, if_pos (has_of_file existing), unread]
  | some text =>
    have read : w.readText path = .ok text := by
      rw [Workspace.readText, bytes]
      simp only [decoded]
    rw [storedConfiguration?, decoded, Option.bind_some, loadConfiguration_of_readText read]
    cases Configuration.parse? text with
    | none => exact .inr ⟨rfl, _, rfl⟩
    | some c => exact .inl ⟨c, rfl, rfl⟩

/-! ## Running the command -/

/-- A configuration that is not loaded stops every command before it has done anything. -/
theorem run_of_error {f : Failure} (unloaded : loadConfiguration w i.configuration = .error f) :
    run s w i = .stopped w "" (.badConfiguration i.configuration f) := by
  rw [run, unloaded]

theorem run_init {c : Configuration} (loaded : loadConfiguration w i.configuration = .ok c)
    (asked : i.command = .initConfiguration force) :
    run s w i = initConfiguration w i.configuration force := by
  rw [run, loaded]
  simp only [asked]

theorem initConfiguration_unforced {path : String} (there : w.has path = true) :
    initConfiguration w path false = .stopped w "" (.configurationExists path) := by
  rw [initConfiguration, there]
  rfl

/-- By force, the default configuration is saved over a file that is there. -/
theorem initConfiguration_forced {path : String} (existing : w.get? path = .ok (.file content)) :
    ∃ w', saveConfiguration .default w path = (none, w') ∧
      initConfiguration w path true = .done w' ("✅ Wrote " ++ path ++ "\n") := by
  obtain ⟨w', saved⟩ := exists_save_of_file existing .default
  refine ⟨w', saved, ?_⟩
  rw [initConfiguration, Bool.not_true, Bool.and_false, if_neg Bool.false_ne_true, saved]

/-- **Initialising over an existing file** succeeds exactly by force and if the file holds a
configuration. If it fails, nothing has changed; if it succeeds, the default configuration is loaded
afterwards. If the file holds none, the failure is that it could not be loaded, by force or not. -/
theorem init_succeeds_iff (asked : i.command = .initConfiguration force)
    (existing : w.get? i.configuration = .ok (.file content)) :
    ((run s w i).failure = none ↔ force = true ∧ (storedConfiguration? content).isSome = true) ∧
    ((run s w i).failure ≠ none → (run s w i).workspace = w) ∧
    ((run s w i).failure = none →
      loadConfiguration (run s w i).workspace i.configuration = .ok .default) ∧
    (storedConfiguration? content = none →
      ∃ f, (run s w i).failure = some (.badConfiguration i.configuration f)) := by
  rcases loadConfiguration_of_file existing with ⟨c, holds, loaded⟩ | ⟨spoilt, f, unloaded⟩
  · rw [run_init loaded asked, holds]
    cases force with
    | false =>
      rw [initConfiguration_unforced (has_of_file existing)]
      exact ⟨iff_of_false nofun nofun, fun _ => rfl, nofun, nofun⟩
    | true =>
      obtain ⟨w', saved, outcome⟩ := initConfiguration_forced existing
      rw [outcome]
      exact ⟨iff_of_true rfl ⟨rfl, rfl⟩, fun failed => absurd rfl failed,
        fun _ => loadConfiguration_of_save saved, nofun⟩
  · rw [run_of_error unloaded, spoilt]
    exact ⟨iff_of_false nofun (fun both => nomatch both.2), fun _ => rfl, nofun, fun _ => ⟨f, rfl⟩⟩

/-! ## From the command line -/

/-- The invocation of the command with everything else left at its default. -/
def initInvocation (force : Bool) : Invocation :=
  ⟨"autodesign.toml", none, .table, false, .initConfiguration force⟩

/-- A workspace with nothing but a configuration file. -/
def configured (content : ByteArray) : Workspace :=
  ⟨⟨[(["autodesign.toml"], .file content)]⟩, []⟩

theorem get?_configured (content : ByteArray) :
    (configured content).get? "autodesign.toml" = .ok (.file content) := rfl

/-- Surroundings in which no program can be started. -/
def idle : Surroundings := ⟨fun _ _ => .error .notFound, ""⟩

/-- A file with a setting is replaced by force, and kept without. -/
theorem init_succeeds_iff_configured :
    let w := configured "output_root = 'out'".toUTF8
    (run idle w (initInvocation true)).failure = none ∧
      loadConfiguration (run idle w (initInvocation true)).workspace "autodesign.toml" =
        .ok .default ∧
      (run idle w (initInvocation false)).failure ≠ none ∧
      (run idle w (initInvocation false)).workspace = w := by
  intro w
  have holds : (storedConfiguration? "output_root = 'out'".toUTF8).isSome = true := by
    have parsed : (Configuration.parse? "output_root = 'out'").isSome = true := by decide +kernel
    rw [storedConfiguration?, Text.Utf8.decode?_toUTF8, Option.bind_some, parsed]
  obtain ⟨forced, _, loaded, _⟩ :=
    @init_succeeds_iff idle w (initInvocation true) _ true rfl (get?_configured _)
  obtain ⟨unforced, kept, _, _⟩ :=
    @init_succeeds_iff idle w (initInvocation false) _ false rfl (get?_configured _)
  have succeeds := forced.mpr ⟨rfl, holds⟩
  have fails : (run idle w (initInvocation false)).failure ≠ none :=
    fun none => absurd (unforced.mp none).1 Bool.false_ne_true
  exact ⟨succeeds, loaded succeeds, fails, kept fails⟩

/-- A file that is no TOML document is not replaced, not even by force. -/
theorem forced_init_refused :
    let w := configured "output_root = [".toUTF8
    read none ["config", "init", "--force"] = .invocation (initInvocation true) ∧
      w.get? "autodesign.toml" = .ok (.file "output_root = [".toUTF8) ∧
      (run idle w (initInvocation true)).failure =
        some (.badConfiguration "autodesign.toml" .badConfiguration) ∧
      (run idle w (initInvocation true)).workspace = w := by
  intro w
  have malformed : Configuration.parse? "output_root = [" = none := by decide +kernel
  have text : w.readText "autodesign.toml" = .ok "output_root = [" := by
    have bytes : w.read "autodesign.toml" = .ok "output_root = [".toUTF8 := rfl
    rw [Workspace.readText, bytes]
    simp only [Text.Utf8.decode?_toUTF8]
  have unloaded : loadConfiguration w "autodesign.toml" = .error .badConfiguration := by
    rw [loadConfiguration_of_readText text, malformed, Option.elim_none]
  have words : read none ["config", "init", "--force"] = .invocation (initInvocation true) := by
    decide +kernel
  have refused := @run_of_error idle w (initInvocation true) _ unloaded
  exact ⟨words, get?_configured _, by rw [refused]; rfl, by rw [refused]; rfl⟩

end TestPlanner.CommandLine
