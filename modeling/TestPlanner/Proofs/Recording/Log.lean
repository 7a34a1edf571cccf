import TestPlanner.Proofs.Artifact.Lines
import TestPlanner.Proofs.Artifact.OneLine
import TestPlanner.Proofs.Files.Directories
import TestPlanner.Proofs.Recording.Event
import TestPlanner.Proofs.Text.Utf8
import TestPlanner.Recording.Source

/-!
# The same events from a list, a log and a program

A log has every event on a line of its own. **Blank lines** do not matter to a log that was saved,
and lines that are **no events** do not matter in the output of a program (`Holds`). Both readers
find the events in their order, since the line of an event is read back as the event whatever its
texts are, and has no line feed itself.

So a request is answered alike, with the same plan or the same failure, whether the events are
replayed from a list, read from a saved log, or reported by a running program.
-/

set_option autoImplicit false

namespace TestPlanner.Recording

open Text Json

/-! ## Lines of events -/

/-- A line that holds the text of an event, with any blanks on either side, such as the carriage
return of a line ending. -/
def Writes (line : String) (e : SessionEvent) : Prop :=
  ∃ before after, (∀ c ∈ before, isSpace c = true) ∧ (∀ c ∈ after, isSpace c = true) ∧
    line.toList = before ++ e.toJson.compactChars ++ after

/-- Lines that hold events, one to a line and in order, with other lines anywhere between. -/
inductive Holds (other : String → Prop) : List String → List SessionEvent → Prop
  | nil : Holds other [] []
  | event {line : String} {e : SessionEvent} {lines : List String} {events : List SessionEvent} :
    Writes line e → Holds other lines events → Holds other (line :: lines) (e :: events)
  | other {line : String} {lines : List String} {events : List SessionEvent} :
    other line → Holds other lines events → Holds other (line :: lines) events

/-- A line of nothing but blanks. -/
def BlankLine (line : String) : Prop := allBlank line.toList = true

instance (line : String) : Decidable (BlankLine line) :=
  inferInstanceAs (Decidable (allBlank line.toList = true))

/-- A line that is not the text of an event. -/
def NoEvent (line : String) : Prop := SessionEvent.ofText? line = none

instance (line : String) : Decidable (NoEvent line) :=
  inferInstanceAs (Decidable (SessionEvent.ofText? line = none))

theorem unbroken_compact (e : SessionEvent) : Unbroken e.toJson.compact := by
  rw [Unbroken, compact, String.toList_ofList]
  exact lineFeed_notMem_compactChars _

theorem writes_compact (e : SessionEvent) : Writes e.toJson.compact e := by
  refine ⟨[], [], List.forall_mem_nil _, List.forall_mem_nil _, ?_⟩
  rw [compact, String.toList_ofList, List.nil_append, List.append_nil]

/-- The line of an event is read as the event. -/
theorem Writes.ofText? {line : String} {e : SessionEvent} (writes : Writes line e) :
    SessionEvent.ofText? line = some e := by
  obtain ⟨before, after, blankBefore, blankAfter, text⟩ := writes
  have read := (spells_compactChars _ e.writable_toJson).parseChars? blankBefore blankAfter
  rw [← text] at read
  rw [SessionEvent.ofText?, parse?, read, Option.bind_some, e.ofJson?_toJson]

theorem isBlank_of_isSpace {c : Char} (space : isSpace c = true) : isBlank c = true := by
  simp only [isSpace, Bool.or_eq_true, beq_iff_eq] at space
  rcases space with ((rfl | rfl) | rfl) | rfl <;> decide

theorem getLast?_compactMembers (ms : List (String × Json)) :
    (compactMembers ms).getLast? = some '\x7d' := by
  induction ms with
  | nil => rfl
  | cons m ms ih =>
    cases ms with
    | nil => simp [compactMembers, List.getLast?_cons]
    | cons n ms => simp [compactMembers, List.getLast?_cons, ih]

/-- The text of an object neither begins nor ends with a blank. -/
theorem visible_object (ms : List (String × Json)) : Visible (compactChars (.object ms)) := by
  rw [compactChars]
  refine ⟨rfl, ?_⟩
  rw [List.getLast?_cons, getLast?_compactMembers]
  rfl

theorem visible_compactChars (e : SessionEvent) :
    Visible e.toJson.compactChars ∧ e.toJson.compactChars ≠ [] := by
  obtain ⟨ms, shape⟩ : ∃ ms, e.toJson = .object ms := by cases e <;> exact ⟨_, rfl⟩
  rw [shape]
  refine ⟨visible_object ms, ?_⟩
  rw [compactChars]
  exact List.cons_ne_nil _ _

/-- The line of an event is trimmed to its text. -/
theorem Writes.trim_eq {line : String} {e : SessionEvent} (writes : Writes line e) :
    trim line.toList = e.toJson.compactChars := by
  obtain ⟨before, after, blankBefore, blankAfter, text⟩ := writes
  rw [text, List.append_assoc]
  exact (visible_compactChars e).1.trim_between
    (fun c member => isBlank_of_isSpace (blankBefore c member))
    (fun c member => isBlank_of_isSpace (blankAfter c member))

/-! ## Logs -/

/-- The lines of a log, trimmed, without those that are blank. -/
theorem nonblankLines_eq (log : String) :
    nonblankLines log.toList =
      ((linesOf log).map fun line => trim line.toList).filter fun piece => !piece.isEmpty := by
  rw [nonblankLines, nonblankPieces, linesOf, List.splitOn_eq_splitOnP, List.map_map]
  simp only [Function.comp_def, String.toList_ofList]

theorem trim_of_blankLine {line : String} (blank : BlankLine line) : trim line.toList = [] :=
  trim_eq_nil (List.all_eq_true.mp blank)

/-- **A saved log gives its events,** whatever blank lines it has. -/
theorem eventsOfLog?_of_holds {log : String} {events : List SessionEvent}
    (holds : Holds BlankLine (linesOf log) events) : eventsOfLog? log = some events := by
  rw [eventsOfLog?, nonblankLines_eq]
  generalize linesOf log = lines at holds
  induction holds with
  | nil => rfl
  | @event line e lines events writes _ ih =>
    have text : (!e.toJson.compactChars.isEmpty) = true := by
      simpa using (visible_compactChars e).2
    rw [List.map_cons, writes.trim_eq, List.filter_cons, if_pos text, List.mapM_cons, ih]
    change (SessionEvent.ofText? e.toJson.compact).bind _ = _
    rw [e.ofText?_compact]
    rfl
  | other blank _ ih =>
    rw [List.map_cons, trim_of_blankLine blank, List.filter_cons, if_neg (by decide)]
    exact ih

/-! ## Output -/

theorem textLines_toUTF8 (lines : List String) :
    textLines (lines.map fun line => line.toUTF8.toList) = lines := by
  induction lines with
  | nil => rfl
  | cons line lines ih =>
    rw [List.map_cons, textLines, Utf8.mk_toArray_toList, Utf8.decode?_toUTF8, ih]

/-- What is read from the output of a program that prints a text: its lines, as far as they are
events. -/
theorem eventsOfOutput_toUTF8 (output : String) :
    eventsOfOutput output.toUTF8 = (linesOf output).filterMap SessionEvent.ofText? := by
  have lines := textLines_toUTF8 (linesOf output)
  rw [linesOf, List.map_map] at lines
  rw [eventsOfOutput, Utf8.splitOnP_toUTF8, linesOf]
  exact congrArg (List.filterMap SessionEvent.ofText?) lines

/-- **The output of a program gives its events,** whatever else the program prints. -/
theorem eventsOfOutput_of_holds {output : String} {events : List SessionEvent}
    (holds : Holds NoEvent (linesOf output) events) :
    eventsOfOutput output.toUTF8 = events := by
  rw [eventsOfOutput_toUTF8]
  generalize linesOf output = lines at holds
  induction holds with
  | nil => rfl
  | event writes _ ih => rw [List.filterMap_cons_some writes.ofText?, ih]
  | other noise _ ih => rw [List.filterMap_cons_none noise, ih]

/-! ## Drivers -/

open Files (Workspace)

/-- A program that can load the browser library, and prints a text when it runs the recording
script. How it ends does not matter. -/
structure Reports (run : Runner) (w : Workspace) (settings : RecordingSettings) (output : String) :
    Prop where
  loads : ∃ r w', run w (libraryCall settings) = .ok (r, w') ∧ r.status = .success
  prints : ∃ r w',
    run w ⟨settings.nodeBinary, [scriptPath], settings.driverDirectory⟩ = .ok (r, w') ∧
      r.output = output.toUTF8.toList

theorem replayLog_of_holds {w : Workspace} {path log : String} {events : List SessionEvent}
    (saved : w.read path = .ok log.toUTF8) (holds : Holds BlankLine (linesOf log) events) :
    replayLog w path = .ok (replay events) := by
  rw [replayLog, Workspace.readText, saved]
  simp only [Utf8.decode?_toUTF8, eventsOfLog?_of_holds holds]

theorem openBrowser_of_reports {run : Runner} {w : Workspace} {settings : RecordingSettings}
    {output : String} {events : List SessionEvent} (reports : Reports run w settings output)
    (holds : Holds NoEvent (linesOf output) events) :
    openBrowser run w settings = .ok (replay events) := by
  obtain ⟨⟨r, w', loaded, success⟩, ⟨session, w'', ran, printed⟩⟩ := reports
  have delivers : eventsOfProgram run w settings = replay events := by
    funext start
    rw [eventsOfProgram, ran]
    simp only [printed, Utf8.mk_toArray_toList, eventsOfOutput_of_holds holds]
    rfl
  rw [openBrowser, loaded]
  simp only [success, delivers, beq_self_eq_true, if_true]

/-- **Live, logged and scripted sessions agree.** Every event survives its text, which keeps to one
line. And whatever the events, three browsers deliver them alike: one that replays the events, one
that replays a saved log of them, with blank lines anywhere, and one that a program drives which
reports them, among any lines that are no events. So a request is answered with the same plan or the
same failure by all three. -/
theorem drivers_agree {run : Runner} {w : Workspace} {settings : RecordingSettings}
    {path log output : String} {events : List SessionEvent}
    (saved : w.read path = .ok log.toUTF8) (logged : Holds BlankLine (linesOf log) events)
    (reports : Reports run w settings output) (printed : Holds NoEvent (linesOf output) events)
    (default : Option String) (r : Request) :
    (∀ e : SessionEvent,
      Unbroken e.toJson.compact ∧ SessionEvent.ofText? e.toJson.compact = some e) ∧
    (replayLog w path = .ok (replay events) ∧
      openBrowser run w settings = .ok (replay events)) ∧
    (replayLog w path).bind (plan · default r) = plan (replay events) default r ∧
    (openBrowser run w settings).bind (plan · default r) = plan (replay events) default r := by
  have fromLog := replayLog_of_holds saved logged
  have fromProgram := openBrowser_of_reports reports printed
  refine ⟨fun e => ⟨unbroken_compact e, e.ofText?_compact⟩, ⟨fromLog, fromProgram⟩, ?_, ?_⟩
  · rw [fromLog, Except.bind]
  · rw [fromProgram, Except.bind]

theorem drivers_agree_among_other_lines :
    let ready := SessionEvent.ready (some "\"Home\"\r\npage")
    let log := joinLines ["", ready.toJson.compact, " \t", SessionEvent.closed.toJson.compact]
    let output := joinLines ["starting", ready.toJson.compact, "\x7b",
      SessionEvent.closed.toJson.compact, ""]
    let w : Workspace := ⟨Files.Tree.empty.put ["log"] (.file log.toUTF8), []⟩
    let run : Runner := fun w call =>
      .ok (if call.arguments == [scriptPath] then ⟨output.toUTF8.toList, [], .exited 1⟩
        else ⟨[], [], .success⟩, w)
    let settings := RecordingSettings.default
    let r : Request := ⟨"http://shop.example/", none, none⟩
    w.read "/log" = .ok log.toUTF8 ∧ Holds BlankLine (linesOf log) [ready, .closed] ∧
      Reports run w settings output ∧ Holds NoEvent (linesOf output) [ready, .closed] ∧
      (replayLog w "/log").bind (plan · none r) = plan (replay [ready, .closed]) none r ∧
      (openBrowser run w settings).bind (plan · none r) =
        plan (replay [ready, .closed]) none r := by
  intro ready log output w run settings r
  have saved : w.read "/log" = .ok log.toUTF8 := Workspace.read_of_locate (p := ["log"]) rfl rfl
  have logged : Holds BlankLine (linesOf log) [ready, .closed] := by
    rw [linesOf_joinLines (List.cons_ne_nil _ _)]
    · exact .other (by decide) (.event (writes_compact _)
        (.other (by decide) (.event (writes_compact _) .nil)))
    · simp only [List.forall_mem_cons, List.not_mem_nil, false_imp_iff, implies_true, and_true]
      exact ⟨by decide, unbroken_compact _, by decide, unbroken_compact _⟩
  have printed : Holds NoEvent (linesOf output) [ready, .closed] := by
    rw [linesOf_joinLines (List.cons_ne_nil _ _)]
    · exact .other (by decide) (.event (writes_compact _)
        (.other (by decide) (.event (writes_compact _) (.other (by decide) .nil))))
    · simp only [List.forall_mem_cons, List.not_mem_nil, false_imp_iff, implies_true, and_true]
      exact ⟨by decide, unbroken_compact _, by decide, unbroken_compact _, by decide⟩
  have reports : Reports run w settings output := ⟨⟨_, w, rfl, rfl⟩, ⟨_, w, rfl, rfl⟩⟩
  obtain ⟨_, _, fromLog, fromProgram⟩ := drivers_agree saved logged reports printed none r
  exact ⟨saved, logged, reports, printed, fromLog, fromProgram⟩

end TestPlanner.Recording
