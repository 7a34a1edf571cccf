import TestPlanner.Recording.Event
import TestPlanner.Text.Blank
import TestPlanner.Text.Utf8

/-!
# Session logs

A session log has one event per line. A saved log is read as a whole: blank lines are passed over,
and every other line has to be an event. The output of a running browser driver is read line by
line: lines that are not events are passed over, and a line that is not text ends the stream.
-/

set_option autoImplicit false

namespace TestPlanner.Recording

open Text

/-- The events of a saved log. -/
def eventsOfLog? (log : String) : Option (List SessionEvent) :=
  (nonblankLines log.toList).mapM fun line => SessionEvent.ofText? (String.ofList line)

/-- The texts of lines, up to the first that is not text. -/
def textLines : List (List UInt8) → List String
  | [] => []
  | line :: lines =>
    match Utf8.decode? ⟨line.toArray⟩ with
    | some text => text :: textLines lines
    | none => []

/-- The events in the output of a browser driver. -/
def eventsOfOutput (output : ByteArray) : List SessionEvent :=
  (textLines (output.toList.splitOnP (· == 10))).filterMap SessionEvent.ofText?

end TestPlanner.Recording
