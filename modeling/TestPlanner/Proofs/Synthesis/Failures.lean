import TestPlanner.Prose.Source
import TestPlanner.Proofs.Recording.Stream
import TestPlanner.Proofs.Text.Utf8
import TestPlanner.Screenshot.Source

/-!
# Failures of the sources of plans

A source of plans either refuses its input or fails in its own name, and then carries what stopped
it (`Failure.Belongs`). For each source, one relation lists the ways in which it fails, each with
what has to be the case and with the failure that is answered; the source fails in these ways and in
no others (`Prose.plan_eq_error_iff`, `Recording.plan_eq_error_iff`,
`Screenshot.plan_eq_error_iff`).

**Field files.** All failures of texts, of recordings and of screenshots with a detector program
belong to their source. Of those of screenshots with field files, one does not: a field file that is
there and cannot be read is answered with the fault of the file alone (`failures_belong_iff`).
-/

set_option autoImplicit false

namespace TestPlanner

open Files (Workspace)

/-- The failures that belong to a source: the refusal of an input, and what fails in the name of the
source because of something else. -/
inductive Failure.Belongs (source : SourceKind) : Failure → Prop
  | refused (why : Refusal) : Belongs source (.invalid why)
  | fault (fault : FileFault) : Belongs source (.sourceFault source fault)
  | message (message : String) : Belongs source (.sourceMessage source message)
  | failure (cause : Failure) : Belongs source (.sourceFailure source cause)

/-- What follows another step fails if either does. -/
theorem bind_eq_error_iff {α β : Type} {first : Except Failure α} {next : α → Except Failure β}
    {f : Failure} :
    first >>= next = .error f ↔ first = .error f ∨ ∃ x, first = .ok x ∧ next x = .error f := by
  cases first with
  | error g =>
    refine ⟨fun failed => .inl ?_, fun failed => ?_⟩
    · obtain rfl := Except.error.inj failed
      rfl
    · rcases failed with same | ⟨_, impossible, _⟩
      · rw [same]
        rfl
      · cases impossible
  | ok x =>
    refine ⟨fun failed => .inr ⟨x, rfl, failed⟩, fun failed => ?_⟩
    rcases failed with impossible | ⟨y, same, later⟩
    · cases impossible
    · rwa [Except.ok.inj same]

/-! ## Texts -/

namespace Prose

variable {w : Workspace} {r : Request} {f : Failure}

/-- How a text fails. -/
inductive Fails (w : Workspace) (r : Request) : Failure → Prop
  | empty (blank : Text.allBlank r.input.toList = true) : Fails w r (.invalid .emptyText)
  | unreadable {fault : FileFault} (shown : Text.allBlank r.input.toList = false)
      (file : w.isFile r.input = true) (unread : w.readText r.input = .error fault) :
      Fails w r (.sourceFault .text fault)
  | blankFile {text : String} (shown : Text.allBlank r.input.toList = false)
      (file : w.isFile r.input = true) (read : w.readText r.input = .ok text)
      (blank : Text.allBlank text.toList = true) : Fails w r (.invalid (.blankText r.input))

theorem Fails.belongs (fails : Fails w r f) : f.Belongs .text := by
  cases fails with
  | empty _ => exact .refused _
  | unreadable _ _ _ => exact .fault _
  | blankFile _ _ _ _ => exact .refused _

theorem textOf_eq_error_iff {input : String} : textOf w input = .error f ↔
    w.isFile input = true ∧
      ∃ fault, w.readText input = .error fault ∧ .sourceFault .text fault = f := by
  unfold textOf
  split
  next file => cases w.readText input <;> simp [file]
  next other => exact iff_of_false nofun fun answered => other answered.1

theorem textOf_eq_ok_iff {input text : String} : textOf w input = .ok text ↔
    (w.isFile input = true ∧ w.readText input = .ok text) ∨
      (w.isFile input = false ∧ input = text) := by
  unfold textOf
  cases file : w.isFile input with
  | false => simp
  | true => cases w.readText input <;> simp

/-- **A text fails in these ways and in no others.** -/
theorem plan_eq_error_iff (settings : TextSettings) (marker : Option Marker) (timestamp : String) :
    plan settings marker timestamp w r = .error f ↔ Fails w r f := by
  constructor
  · intro failed
    unfold plan at failed
    split at failed
    next blank =>
      obtain rfl := Except.error.inj failed
      exact .empty blank
    next shown =>
      have shown := Bool.eq_false_iff.mpr shown
      rcases bind_eq_error_iff.mp failed with unresolved | ⟨text, resolved, refused⟩
      · obtain ⟨file, fault, unread, rfl⟩ := textOf_eq_error_iff.mp unresolved
        exact .unreadable shown file unread
      · split at refused
        next blank =>
          obtain rfl := Except.error.inj refused
          rcases textOf_eq_ok_iff.mp resolved with ⟨file, read⟩ | ⟨_, rfl⟩
          · exact .blankFile shown file read blank
          · rw [shown] at blank
            cases blank
        next => cases refused
  · intro fails
    cases fails with
    | empty blank => rw [plan, if_pos blank]
    | unreadable shown file unread =>
      rw [plan, if_neg (by simp [shown]), bind_eq_error_iff]
      exact .inl (textOf_eq_error_iff.mpr ⟨file, _, unread, rfl⟩)
    | blankFile shown file read blank =>
      rw [plan, if_neg (by simp [shown]), bind_eq_error_iff]
      exact .inr ⟨_, textOf_eq_ok_iff.mpr (.inl ⟨file, read⟩), if_pos blank⟩

end Prose

/-! ## Recordings -/

namespace Recording

variable {events : List SessionEvent} {default : Option String} {r : Request} {f : Failure}

/-- How a recording of events fails. -/
inductive Fails (events : List SessionEvent) (default : Option String) (r : Request) :
    Failure → Prop
  | noStart (blank : (Text.trimmed r.input).isEmpty = true) (absent : default = none) :
      Fails events default r (.invalid .noStartAddress)
  | reported {start message : String} {before after : List SessionEvent}
      (started : startOf default r.input = .ok start)
      (split : counted events = before ++ .error message :: after)
      (first : ∀ earlier, .error earlier ∉ before) :
      Fails events default r (.sourceMessage .recording message)
  | neverReady {start : String} (started : startOf default r.input = .ok start)
      (sound : ∀ message, .error message ∉ counted events)
      (absent : ∀ title, .ready title ∉ counted events) :
      Fails events default r
        (.sourceMessage .recording "browser session ended before the page was ready")

theorem Fails.belongs (fails : Fails events default r f) : f.Belongs .recording := by
  cases fails with
  | noStart _ _ => exact .refused _
  | reported _ _ _ => exact .message _
  | neverReady _ _ _ => exact .message _

theorem startOf_eq_error_iff {input : String} : startOf default input = .error f ↔
    (Text.trimmed input).isEmpty = true ∧ default = none ∧ .invalid .noStartAddress = f := by
  unfold startOf
  dsimp only
  split
  next blank =>
    cases default with
    | none =>
      refine ⟨fun failed => ⟨blank, rfl, Except.error.inj failed⟩, ?_⟩
      rintro ⟨_, _, rfl⟩
      rfl
    | some start =>
      refine iff_of_false nofun ?_
      rintro ⟨_, impossible, _⟩
      cases impossible
  next shown =>
    refine iff_of_false nofun ?_
    rintro ⟨blank, _⟩
    exact absurd blank shown

/-- **A recording fails in these ways and in no others.** -/
theorem plan_eq_error_iff :
    plan (replay events) default r = .error f ↔ Fails events default r f := by
  have recorded (start : String) :
      (replay events start >>= record start r.feature) = record start r.feature events := rfl
  rw [plan, bind_eq_error_iff, startOf_eq_error_iff]
  constructor
  · rintro (⟨blank, absent, rfl⟩ | ⟨start, started, failed⟩)
    · exact .noStart blank absent
    · rw [recorded, record_eq] at failed
      split at failed
      next message found =>
        obtain rfl := Except.error.inj failed
        obtain ⟨before, e, after, split, reports, silent⟩ := List.findSome?_eq_some_iff.mp found
        have same : e = .error message := by
          cases e with
          | error own => rw [Option.some.inj reports]
          | _ => cases reports
        subst same
        refine .reported started split fun earlier member => ?_
        cases silent _ member
      next sound =>
        split at failed
        next absent =>
          obtain rfl := Except.error.inj failed
          exact .neverReady started ((findSome?_message_eq_none_iff _).mp sound)
            ((titles_eq_nil_iff _).mp absent)
        next => cases failed
  · intro fails
    cases fails with
    | noStart blank absent => exact .inl ⟨blank, absent, rfl⟩
    | reported started split first =>
      refine .inr ⟨_, started, ?_⟩
      rw [recorded, record_eq, split, findSome?_message_of_first first]
    | neverReady started sound absent =>
      refine .inr ⟨_, started, ?_⟩
      rw [recorded, record_eq, (findSome?_message_eq_none_iff _).mpr sound]
      exact if_pos ((titles_eq_nil_iff _).mpr absent)

end Recording

/-! ## Screenshots -/

namespace Screenshot

variable {run : Runner} {settings : ImageSettings} {w : Workspace} {r : Request} {f : Failure}

/-- How a screenshot fails: by itself, by its field file, or by a detector program. -/
inductive Fails (run : Runner) (settings : ImageSettings) (w : Workspace) (r : Request) :
    Failure → Prop
  | notFound {fault : FileFault} (unread : w.read r.input = .error fault) :
      Fails run settings w r (.invalid (.imageNotFound r.input))
  | undecodable {content : ByteArray} (read : w.read r.input = .ok content)
      (spoiled : isReadableImage r.input content = false) :
      Fails run settings w r (.invalid (.undecodableImage r.input))
  | unreadableFields {fault : FileFault} (checked : checkImage w r.input = .ok ())
      (byFile : settings.detectorCommand = []) (there : w.has (fieldFile r.input) = true)
      (unread : w.readText (fieldFile r.input) = .error fault) :
      Fails run settings w r (.file fault)
  | malformedFields {text : String} (checked : checkImage w r.input = .ok ())
      (byFile : settings.detectorCommand = []) (there : w.has (fieldFile r.input) = true)
      (read : w.readText (fieldFile r.input) = .ok text)
      (malformed : DetectedField.report? text = none) :
      Fails run settings w r (.sourceFailure .image .badJson)
  | notStarted {program : String} {arguments : List String} {fault : FileFault}
      (checked : checkImage w r.input = .ok ())
      (byProgram : settings.detectorCommand = program :: arguments)
      (refused : run w ⟨program, arguments ++ [r.input], none⟩ = .error fault) :
      Fails run settings w r (.sourceFault .image fault)
  | unsuccessful {program : String} {arguments : List String} {result : ProgramResult}
      {left : Workspace} (checked : checkImage w r.input = .ok ())
      (byProgram : settings.detectorCommand = program :: arguments)
      (ran : run w ⟨program, arguments ++ [r.input], none⟩ = .ok (result, left))
      (failed : result.status ≠ .success) :
      Fails run settings w r (.sourceMessage .image
        ("field detector exited with " ++ result.status.message ++ ": " ++
          Text.trimmed (Text.Utf8.lossy ⟨result.errors.toArray⟩)))
  | malformedOutput {program : String} {arguments : List String} {result : ProgramResult}
      {left : Workspace} (checked : checkImage w r.input = .ok ())
      (byProgram : settings.detectorCommand = program :: arguments)
      (ran : run w ⟨program, arguments ++ [r.input], none⟩ = .ok (result, left))
      (succeeded : result.status = .success)
      (malformed : DetectedField.report? (Text.Utf8.lossy ⟨result.output.toArray⟩) = none) :
      Fails run settings w r (.sourceFailure .image .badJson)

theorem checkImage_eq_error_iff {path : String} : checkImage w path = .error f ↔
    (∃ fault, w.read path = .error fault ∧ .invalid (.imageNotFound path) = f) ∨
      ∃ content, w.read path = .ok content ∧ isReadableImage path content = false ∧
        .invalid (.undecodableImage path) = f := by
  unfold checkImage
  cases w.read path with
  | error fault => simp
  | ok content => cases readable : isReadableImage path content <;> simp [readable]

theorem checkImage_of_read {path : String} {content : ByteArray} (read : w.read path = .ok content)
    (readable : isReadableImage path content = true) : checkImage w path = .ok () := by
  rw [checkImage, read]
  exact if_pos readable

/-- A report fails if it is no list of fields. -/
theorem readReport_eq_error_iff {text : String} : readReport text = .error f ↔
    DetectedField.report? text = none ∧ .sourceFailure .image .badJson = f := by
  unfold readReport
  cases DetectedField.report? text with
  | none => simp
  | some fields => simp

theorem fieldFiles_eq_error_iff {image : String} : (fieldFiles w [image]).1 = .error f ↔
    w.has (fieldFile image) = true ∧
      ((∃ fault, w.readText (fieldFile image) = .error fault ∧ .file fault = f) ∨
        ∃ text, w.readText (fieldFile image) = .ok text ∧ DetectedField.report? text = none ∧
          .sourceFailure .image .badJson = f) := by
  have single : (fieldFiles w [image]).1 = .error f ↔ fieldsOfFile w image = .error f := by
    rw [fieldFiles, List.mapM_cons, List.mapM_nil]
    cases fieldsOfFile w image with
    | error g => exact Iff.rfl
    | ok fields => exact iff_of_false nofun nofun
  rw [single]
  unfold fieldsOfFile
  dsimp only
  split
  next there =>
    cases w.readText (fieldFile image) with
    | error fault => simp [there]
    | ok text => simp [there, readReport_eq_error_iff]
  next missing => exact iff_of_false nofun fun answered => missing answered.1

theorem fieldsOfResult_eq_error_iff {result : ProgramResult} : fieldsOfResult result = .error f ↔
    (result.status ≠ .success ∧ .sourceMessage .image
      ("field detector exited with " ++ result.status.message ++ ": " ++
        Text.trimmed (Text.Utf8.lossy ⟨result.errors.toArray⟩)) = f) ∨
      (result.status = .success ∧
        DetectedField.report? (Text.Utf8.lossy ⟨result.output.toArray⟩) = none ∧
        .sourceFailure .image .badJson = f) := by
  unfold fieldsOfResult
  by_cases succeeded : result.status = .success
  · simp [succeeded, readReport_eq_error_iff]
  · simp [succeeded]

theorem programDetector_eq_error_iff {program image : String} {arguments : List String} :
    (programDetector run program arguments w [image]).1 = .error f ↔
      (∃ fault, run w ⟨program, arguments ++ [image], none⟩ = .error fault ∧
        .sourceFault .image fault = f) ∨
      ∃ result left, run w ⟨program, arguments ++ [image], none⟩ = .ok (result, left) ∧
        fieldsOfResult result = .error f := by
  unfold programDetector
  cases run w ⟨program, arguments ++ [image], none⟩ with
  | error fault => simp
  | ok answer =>
    obtain ⟨result, left⟩ := answer
    simp

theorem plan_eq_error_iff_of_detector {detect : Detector} : (plan detect w r).1 = .error f ↔
    checkImage w r.input = .error f ∨
      (checkImage w r.input = .ok () ∧ (detect w [r.input]).1 = .error f) := by
  unfold plan
  cases checkImage w r.input with
  | error g => simp
  | ok =>
    dsimp only
    cases (detect w [r.input]).1 with
    | error g => simp [Except.map]
    | ok fields => simp [Except.map]

/-- **A screenshot fails in these ways and in no others.** -/
theorem plan_eq_error_iff :
    (plan (detectorOf run settings) w r).1 = .error f ↔ Fails run settings w r f := by
  rw [plan_eq_error_iff_of_detector, checkImage_eq_error_iff]
  constructor
  · rintro ((⟨fault, unread, rfl⟩ | ⟨content, read, spoiled, rfl⟩) | ⟨checked, failed⟩)
    · exact .notFound unread
    · exact .undecodable read spoiled
    · cases command : settings.detectorCommand with
      | nil =>
        rw [detectorOf, command] at failed
        obtain ⟨there, ⟨fault, unread, rfl⟩ | ⟨text, read, malformed, rfl⟩⟩ :=
          fieldFiles_eq_error_iff.mp failed
        · exact .unreadableFields checked command there unread
        · exact .malformedFields checked command there read malformed
      | cons program arguments =>
        rw [detectorOf, command] at failed
        rcases programDetector_eq_error_iff.mp failed with
          ⟨fault, refused, rfl⟩ | ⟨result, left, ran, failed⟩
        · exact .notStarted checked command refused
        · rcases fieldsOfResult_eq_error_iff.mp failed with
            ⟨unsuccessful, rfl⟩ | ⟨succeeded, malformed, rfl⟩
          · exact .unsuccessful checked command ran unsuccessful
          · exact .malformedOutput checked command ran succeeded malformed
  · intro fails
    cases fails with
    | notFound unread => exact .inl (.inl ⟨_, unread, rfl⟩)
    | undecodable read spoiled => exact .inl (.inr ⟨_, read, spoiled, rfl⟩)
    | unreadableFields checked byFile there unread =>
      refine .inr ⟨checked, ?_⟩
      rw [detectorOf, byFile]
      exact fieldFiles_eq_error_iff.mpr ⟨there, .inl ⟨_, unread, rfl⟩⟩
    | malformedFields checked byFile there read malformed =>
      refine .inr ⟨checked, ?_⟩
      rw [detectorOf, byFile]
      exact fieldFiles_eq_error_iff.mpr ⟨there, .inr ⟨_, read, malformed, rfl⟩⟩
    | notStarted checked byProgram refused =>
      refine .inr ⟨checked, ?_⟩
      rw [detectorOf, byProgram]
      exact programDetector_eq_error_iff.mpr (.inl ⟨_, refused, rfl⟩)
    | unsuccessful checked byProgram ran failed =>
      refine .inr ⟨checked, ?_⟩
      rw [detectorOf, byProgram]
      exact programDetector_eq_error_iff.mpr (.inr ⟨_, _, ran,
        fieldsOfResult_eq_error_iff.mpr (.inl ⟨failed, rfl⟩)⟩)
    | malformedOutput checked byProgram ran succeeded malformed =>
      refine .inr ⟨checked, ?_⟩
      rw [detectorOf, byProgram]
      exact programDetector_eq_error_iff.mpr (.inr ⟨_, _, ran,
        fieldsOfResult_eq_error_iff.mpr (.inr ⟨succeeded, malformed, rfl⟩)⟩)

/-- Fields are read from files, and the file for the image is there but cannot be read. -/
def FieldsUnreadable (settings : ImageSettings) (w : Workspace) (r : Request) : Prop :=
  settings.detectorCommand = [] ∧ checkImage w r.input = .ok () ∧
    w.has (fieldFile r.input) = true ∧ ∃ fault, w.readText (fieldFile r.input) = .error fault

/-- A failure of a screenshot belongs to it unless its field file is unreadable. -/
theorem Fails.belongs_iff (fails : Fails run settings w r f) :
    f.Belongs .image ↔ ¬ FieldsUnreadable settings w r := by
  have unchecked : ∀ {failure : Failure}, checkImage w r.input = .error failure →
      ¬ FieldsUnreadable settings w r := by
    rintro failure refused ⟨_, checked, _⟩
    rw [checked] at refused
    cases refused
  have program : ∀ {name : String} {arguments : List String},
      settings.detectorCommand = name :: arguments → ¬ FieldsUnreadable settings w r := by
    rintro name arguments byProgram ⟨byFile, _⟩
    rw [byProgram] at byFile
    cases byFile
  cases fails with
  | notFound unread =>
    exact iff_of_true (.refused _)
      (unchecked (checkImage_eq_error_iff.mpr (.inl ⟨_, unread, rfl⟩)))
  | undecodable read spoiled =>
    exact iff_of_true (.refused _)
      (unchecked (checkImage_eq_error_iff.mpr (.inr ⟨_, read, spoiled, rfl⟩)))
  | unreadableFields checked byFile there unread =>
    exact iff_of_false nofun (not_not.mpr ⟨byFile, checked, there, _, unread⟩)
  | malformedFields checked byFile there read malformed =>
    refine iff_of_true (.failure _) ?_
    rintro ⟨_, _, _, fault, unread⟩
    rw [read] at unread
    cases unread
  | notStarted _ byProgram _ => exact iff_of_true (.fault _) (program byProgram)
  | unsuccessful _ byProgram _ _ => exact iff_of_true (.message _) (program byProgram)
  | malformedOutput _ byProgram _ _ _ => exact iff_of_true (.failure _) (program byProgram)

end Screenshot

/-- **Which failures belong to their source.** For every request and whatever the files hold, the
events say and the program does:

- A text fails in the ways of `Prose.Fails` only, and each of these failures belongs to it.
- A recording fails in the ways of `Recording.Fails` only, and each of these failures belongs to it.
- A screenshot fails in the ways of `Screenshot.Fails` only. Its failure belongs to it exactly if it
  is not the case that fields are read from files and the file for the image is unreadable; then
  the answer is the fault of that file and nothing else. -/
theorem failures_belong_iff (textSettings : TextSettings) (marker : Option Prose.Marker)
    (timestamp : String) (events : List SessionEvent) (default : Option String) (run : Runner)
    (settings : ImageSettings) (w : Workspace) (r : Request) (f : Failure) :
    (Prose.plan textSettings marker timestamp w r = .error f ↔ Prose.Fails w r f) ∧
    (Prose.Fails w r f → f.Belongs .text) ∧
    (Recording.plan (Recording.replay events) default r = .error f ↔
      Recording.Fails events default r f) ∧
    (Recording.Fails events default r f → f.Belongs .recording) ∧
    ((Screenshot.plan (Screenshot.detectorOf run settings) w r).1 = .error f ↔
      Screenshot.Fails run settings w r f) ∧
    (Screenshot.Fails run settings w r f →
      (f.Belongs .image ↔ ¬ Screenshot.FieldsUnreadable settings w r)) ∧
    (Screenshot.FieldsUnreadable settings w r → ∃ fault,
      (Screenshot.plan (Screenshot.detectorOf run settings) w r).1 = .error (.file fault)) := by
  refine ⟨Prose.plan_eq_error_iff _ _ _, Prose.Fails.belongs, Recording.plan_eq_error_iff,
    Recording.Fails.belongs, Screenshot.plan_eq_error_iff, Screenshot.Fails.belongs_iff, ?_⟩
  rintro ⟨byFile, checked, there, fault, unread⟩
  exact ⟨fault, Screenshot.plan_eq_error_iff.mpr (.unreadableFields checked byFile there unread)⟩

/-- A small picture, and a field file next to it. -/
def pictured (fields : ByteArray) : Workspace :=
  ⟨⟨[(["shot.jpg"], .file ⟨#[0xFF, 0xD8, 0xFF, 0xC3, 0, 0x0B, 2, 0, 8, 0, 8, 1, 1, 0x11, 0, 0xFF,
    0xDA]⟩), (["shot.fields.json"], .file fields)]⟩, []⟩

theorem checkImage_pictured (fields : ByteArray) :
    Screenshot.checkImage (pictured fields) "shot.jpg" = .ok () := by
  refine Screenshot.checkImage_of_read rfl ?_
  rw [Screenshot.isReadableImage, Text.Utf8.toList_eq]
  decide +kernel

theorem fieldFile_pictured (fields : ByteArray) :
    (pictured fields).has (Screenshot.fieldFile "shot.jpg") = true ∧
      (pictured fields).readText (Screenshot.fieldFile "shot.jpg") =
        match Text.Utf8.decode? fields with
        | some text => .ok text
        | none => .error .notText := by
  have named : Screenshot.fieldFile "shot.jpg" = "shot.fields.json" := by decide +kernel
  rw [named]
  exact ⟨rfl, rfl⟩

/-- A field file that is text, but no list of fields: the failure belongs to the screenshot. -/
theorem failures_belong_iff_malformed :
    let w := pictured "\x7b".toUTF8
    let r : Request := ⟨"shot.jpg", some "Shop", none⟩
    let run : Runner := fun _ _ => .error .notFound
    let failure : Failure := .sourceFailure .image .badJson
    (Screenshot.plan (Screenshot.detectorOf run ⟨[]⟩) w r).1 = .error failure ∧
      failure.Belongs .image := by
  intro w r run failure
  obtain ⟨there, read⟩ := fieldFile_pictured "\x7b".toUTF8
  rw [Text.Utf8.decode?_toUTF8] at read
  have malformed : DetectedField.report? "\x7b" = none := by decide +kernel
  have fails : Screenshot.Fails run ⟨[]⟩ w r failure :=
    .malformedFields (checkImage_pictured _) rfl there read malformed
  obtain ⟨_, _, _, _, answers, belongs, _⟩ :=
    failures_belong_iff ⟨false, []⟩ none "" [] none run ⟨[]⟩ w r failure
  refine ⟨answers.mpr fails, (belongs fails).mpr ?_⟩
  rintro ⟨_, _, _, fault, unread⟩
  rw [read] at unread
  cases unread

/-- A field file with a byte that is no text: the answer is the fault of the file, and does not name
the source. -/
theorem field_file_fault_escapes :
    let w := pictured ⟨#[0xFF]⟩
    let r : Request := ⟨"shot.jpg", some "Shop", none⟩
    let run : Runner := fun _ _ => .error .notFound
    (Screenshot.plan (Screenshot.detectorOf run ⟨[]⟩) w r).1 = .error (.file .notText) ∧
      ¬ (Failure.file .notText).Belongs .image := by
  intro w r run
  obtain ⟨there, unread⟩ := fieldFile_pictured ⟨#[0xFF]⟩
  have spoiled : Text.Utf8.decode? ⟨#[0xFF]⟩ = none := by decide +kernel
  rw [spoiled] at unread
  exact ⟨Screenshot.plan_eq_error_iff.mpr
    (.unreadableFields (checkImage_pictured _) rfl there unread), nofun⟩

end TestPlanner
