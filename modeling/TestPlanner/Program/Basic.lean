import TestPlanner.Files.Workspace

/-!
# Running programs

What it means to call a program: its name, its arguments and the directory it runs in; and what
comes of it: its output, its messages and how it ended. A `Runner` is whatever carries calls out in
a workspace; a program may change the files there.
-/

set_option autoImplicit false

namespace TestPlanner

/-- A call of a program. -/
structure ProgramCall where
  program : String
  arguments : List String
  /-- the directory it runs in, if it is not the caller's -/
  directory : Option String
  deriving DecidableEq, Repr

/-- How a program ended. -/
inductive ExitStatus where
  | exited (code : Nat)
  | killed (signal : Nat)
  deriving DecidableEq, Repr, Inhabited

namespace ExitStatus

/-- The end of a program that succeeded. -/
def success : ExitStatus := .exited 0

/-- The names of signals. -/
def signalName? (signal : Nat) : Option String :=
  [(1, "SIGHUP"), (2, "SIGINT"), (3, "SIGQUIT"), (4, "SIGILL"), (5, "SIGTRAP"), (6, "SIGABRT"),
    (7, "SIGBUS"), (8, "SIGFPE"), (9, "SIGKILL"), (10, "SIGUSR1"), (11, "SIGSEGV"),
    (12, "SIGUSR2"), (13, "SIGPIPE"), (14, "SIGALRM"), (15, "SIGTERM"), (16, "SIGSTKFLT"),
    (17, "SIGCHLD"), (18, "SIGCONT"), (19, "SIGSTOP"), (20, "SIGTSTP"), (21, "SIGTTIN"),
    (22, "SIGTTOU"), (23, "SIGURG"), (24, "SIGXCPU"), (25, "SIGXFSZ"), (26, "SIGVTALRM"),
    (27, "SIGPROF"), (28, "SIGWINCH"), (29, "SIGIO"), (30, "SIGPWR"),
    (31, "SIGSYS")].lookup signal

/-- The end of a program in words. -/
def message : ExitStatus → String
  | .exited code => "exit status: " ++ toString code
  | .killed signal =>
    "signal: " ++ toString signal ++
      match signalName? signal with
      | some name => " (" ++ name ++ ")"
      | none => ""

end ExitStatus

/-- What comes of a call: what the program wrote to its two outputs, and how it ended. -/
structure ProgramResult where
  output : List UInt8
  errors : List UInt8
  status : ExitStatus
  deriving DecidableEq, Repr

/-- What carries out calls of programs in a workspace. If a program could be started, the workspace
is returned as the program left it. -/
abbrev Runner := Files.Workspace → ProgramCall → Except FileFault (ProgramResult × Files.Workspace)

end TestPlanner
