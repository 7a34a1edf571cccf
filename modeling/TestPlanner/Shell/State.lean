import TestPlanner.Files.Workspace
import TestPlanner.Shell.Arguments
import TestPlanner.Shell.Syntax

/-!
# States of scripts

What the commands of a running script can see of one another: its arguments, variables and
functions, the directory it is in, where its channels lead, what was written so far, the last exit
code, and whether the script is about to leave a loop, a function or itself.

A channel that is read leads to a numbered source, so that whoever reads from it takes up where the
last reader stopped. What a script writes goes to numbered buffers, so that the output of a part can
be taken out again.
-/

set_option autoImplicit false

namespace TestPlanner.Shell

open Files (Workspace)

/-- Where a channel leads. -/
inductive Sink where
  | source (number : Nat)
  | buffer (number : Nat)
  | file (place : Files.Place)
  | nowhere
  deriving DecidableEq, Repr

/-- How a script goes on after a command. -/
inductive Flow where
  | on
  /-- out of so many loops -/
  | leave (loops : Nat)
  /-- to the next turn of a loop that so many loops are in -/
  | next (loops : Nat)
  /-- out of a function -/
  | back
  | ended
  /-- ended by a mistake -/
  | broken
  | killed (signal : Nat)
  deriving DecidableEq, Repr

/-- The state of a running script. -/
structure State where
  workspace : Workspace
  /-- the name that the script goes by -/
  name : String
  arguments : List String
  bindings : List (String × String)
  exported : List String := []
  fixed : List String := []
  functions : List (String × Command) := []
  options : List Char := []
  /-- what is run when signals arrive and, for zero, at the end -/
  traps : List (Nat × String) := []
  /-- the signals that arrived and are yet to be answered -/
  arrived : List Nat := []
  /-- the exit code before what is run for a signal or at the end -/
  answered : Option Nat := none
  channels : List (Nat × Sink)
  sources : List (Nat × List UInt8)
  /-- what was written to buffers, the latest first -/
  written : List (Nat × List UInt8) := []
  /-- the number of the next source or buffer -/
  fresh : Nat
  code : Nat := 0
  /-- the exit code of the last script in a word -/
  substituted : Nat := 0
  flow : Flow := .on
  line : Nat := 1
  /-- the command that messages come from -/
  speaker : Option String := none
  loops : Nat := 0
  /-- whether a function or a sourced file is running, which can be left -/
  inner : Bool := false
  /-- the values that the variables of the running functions hide, the innermost function first -/
  hidden : List (List (String × Option String)) := []
  /-- the traps of the whole script, in a part that has its own -/
  wholeTraps : Option (List (Nat × String)) := none

/-- The options of the shell by name, and their letters. -/
def optionNames : List (String × Option Char) :=
  [("errexit", some 'e'), ("noglob", some 'f'), ("ignoreeof", some 'I'), ("interactive", some 'i'),
    ("monitor", some 'm'), ("noexec", some 'n'), ("stdin", some 's'), ("xtrace", some 'x'),
    ("verbose", some 'v'), ("vi", some 'V'), ("emacs", some 'E'), ("noclobber", some 'C'),
    ("allexport", some 'a'), ("notify", some 'b'), ("nounset", some 'u'), ("privileged", some 'p'),
    ("nolog", none), ("debug", none)]

namespace State

/-- The number by which a script knows itself. -/
def ownNumber : Nat := 4000

/-! ## Variables -/

/-- The state with a variable set. -/
def set (st : State) (name value : String) : State :=
  { st with bindings := (name, value) :: st.bindings.filter fun v => !(v.1 == name) }

/-- The state without a variable. -/
def unset (st : State) (name : String) : State :=
  { st with bindings := st.bindings.filter fun v => !(v.1 == name) }

/-- The state with a variable as it was. -/
def restore (st : State) (v : String × Option String) : State :=
  match v.2 with
  | some value => st.set v.1 value
  | none => st.unset v.1

/-- The characters at which words are split. -/
def separators (st : State) : List Char :=
  match st.bindings.lookup "IFS" with
  | some s => s.toList
  | none => [' ', '\t', '\n']

/-- What stands between the arguments when they are joined. -/
def joint (st : State) : String := String.ofList (st.separators.take 1)

/-- The value of a parameter, if it is set. -/
def value? (st : State) (name : List Char) : Option String :=
  match name with
  | ['#'] => some (toString st.arguments.length)
  | ['?'] => some (toString st.code)
  | ['$'] => some (toString ownNumber)
  | ['!'] => none
  | ['-'] =>
    some (String.ofList ((optionNames.filterMap Prod.snd).reverse.filter st.options.contains))
  | ['@'] => if st.arguments.isEmpty then none else some (" ".intercalate st.arguments)
  | ['*'] => if st.arguments.isEmpty then none else some (st.joint.intercalate st.arguments)
  | ['0'] => some st.name
  | name =>
    if (name.headD ' ').isDigit then
      match (String.ofList name).toNat? with
      | some (n + 1) => st.arguments[n]?
      | some 0 => some st.name
      | none => none
    else st.bindings.lookup (String.ofList name)

/-! ## Channels -/

/-- Writes to where a channel leads. -/
def putTo (st : State) (sink : Option Sink) (s : List UInt8) : State :=
  if s.isEmpty then st
  else
    match sink with
    | some (.buffer number) => { st with written := (number, s) :: st.written }
    | some (.file place) =>
      let old := match st.workspace.tree.get? place with
        | some (.file content) => content.toList
        | _ => []
      { st with
        workspace := st.workspace.withTree
          (st.workspace.tree.put place (.file ⟨(old ++ s).toArray⟩)) }
    | _ => st

/-- Writes to a channel. -/
def put (st : State) (channel : Nat) (s : List UInt8) : State :=
  st.putTo (st.channels.lookup channel) s

/-- The state with a channel that leads somewhere, or nowhere at all. -/
def lead (st : State) (channel : Nat) (sink : Option Sink) : State :=
  let others := st.channels.filter fun c => !(c.1 == channel)
  { st with channels := (sink.map fun s => (channel, s)).toList ++ others }

/-- The state with a channel from which something can be read. -/
def feed (st : State) (channel : Nat) (s : List UInt8) : State :=
  { st.lead channel (some (.source st.fresh)) with
    sources := (st.fresh, s) :: st.sources
    fresh := st.fresh + 1 }

/-- What can be read. -/
def input (st : State) : List UInt8 :=
  match st.channels.lookup 0 with
  | some (.source number) => (st.sources.lookup number).getD []
  | _ => []

/-- The state after something was read, so that something else is left. -/
def leave (st : State) (rest : List UInt8) : State :=
  match st.channels.lookup 0 with
  | some (.source number) =>
    { st with sources := (number, rest) :: st.sources.filter fun s => !(s.1 == number) }
  | _ => st

/-- What a buffer holds, and the state without it. -/
def taken (st : State) (number : Nat) : List UInt8 × State :=
  ((st.written.reverse.filter fun w => w.1 == number).flatMap fun w => w.2,
    { st with written := st.written.filter fun w => !(w.1 == number) })

/-! ## Ends of commands -/

/-- Writes a message of the shell. -/
def complain (st : State) (text : String) : State :=
  let speaker := match st.speaker with
    | some name => name ++ ": "
    | none => ""
  st.put 2 (bytesOf (st.name ++ ": " ++ toString st.line ++ ": " ++ speaker ++ text ++ "\n"))

/-- The state after a command that failed with a message. -/
def failed (st : State) (text : String) (code : Nat) : State :=
  { st.complain text with code := code }

/-- The state after a mistake that ends the script. -/
def broken (st : State) (text : String) : State := { st.failed text 2 with flow := .broken }

/-- What the shell says when a signal ends a program. -/
def signalText (signal : Nat) : String :=
  ([(1, "Hangup"), (3, "Quit"), (4, "Illegal instruction"), (5, "Trace/breakpoint trap"),
    (6, "Aborted"), (7, "Bus error"), (8, "Floating point exception"), (9, "Killed"),
    (10, "User defined signal 1"), (11, "Segmentation fault"), (12, "User defined signal 2"),
    (14, "Alarm clock"), (15, "Terminated"), (16, "Stack fault"), (24, "CPU time limit exceeded"),
    (25, "File size limit exceeded"), (26, "Virtual timer expired"),
    (27, "Profiling timer expired"), (29, "I/O possible"), (30, "Power failure"),
    (31, "Bad system call")].lookup signal).getD
    (if 34 ≤ signal then "Real-time signal " ++ toString (signal - 34)
      else "Unknown signal " ++ toString signal)

/-- Whether the shell says nothing when a signal ends a program. -/
def isQuiet (signal : Nat) : Bool := signal == 2 || signal == 13

/-- The state after a program has written what it writes. -/
def wrote (st : State) (c : Conduct) : State :=
  c.writes.foldl (fun st w => st.put w.1 w.2) st

/-- The state after a program. -/
def after (st : State) (c : Conduct) : State :=
  let st := st.wrote c
  match c.status with
  | .exited n => { st with code := n }
  | .killed n =>
    { (if isQuiet n then st else st.put 2 (bytesOf (signalText n ++ "\n"))) with code := 128 + n }

/-- How the script ended. -/
def status (st : State) : ExitStatus :=
  match st.flow with
  | .killed n => .killed n
  | _ => .exited (st.code % 256)

/-- The state after a part that could not change anything but files, input and output. -/
def afterApart (st part : State) : State :=
  { st with
    workspace := { st.workspace with tree := part.workspace.tree }
    sources := part.sources
    written := part.written
    fresh := part.fresh
    arrived := part.arrived
    code := part.code % 256
    flow := match part.flow with
      | .killed n => .killed n
      | _ => st.flow }

/-- The state in which a part starts that cannot change the script's own. Only signals that the
script ignores stay ignored. -/
def apart (st : State) : State :=
  { st with
    traps := st.traps.filter fun t => t.1 != 0 && t.2.isEmpty
    wholeTraps := some (st.wholeTraps.getD st.traps)
    loops := 0 }

end State

end TestPlanner.Shell
