import TestPlanner.Program.Basic
import TestPlanner.Shell.Escape

/-!
# Arguments of programs

A program has options of one letter, some of which take an argument, and long names for them. The
letters of several options may stand behind one dash, and a long name may be cut short as long as it
stays clear. Two dashes alone end the options. Every program also knows the long options `--help`
and `--version`; the options before them are of no consequence.

A call with an option that is none, or with one that is used the wrong way, ends the program with a
message and a hint.
-/

set_option autoImplicit false

namespace TestPlanner.Shell

/-! ## Conduct -/

/-- What a program does: what it writes to its output, channel one, and its messages, channel two,
in order, and how it ends. -/
structure Conduct where
  writes : List (Nat × List UInt8)
  status : ExitStatus
  deriving DecidableEq, Repr

namespace Conduct

/-- All that was written to a channel. -/
def on (c : Conduct) (channel : Nat) : List UInt8 :=
  (c.writes.filter fun w => w.1 == channel).flatMap Prod.snd

/-- What comes of a program for its caller. -/
def result (c : Conduct) : ProgramResult := ⟨c.on 1, c.on 2, c.status⟩

end Conduct

/-- A program that writes an output and succeeds. -/
def printing (output : List UInt8) : Conduct := ⟨[(1, output)], .success⟩

/-- A program that only ends. -/
def ending (code : Nat) : Conduct := ⟨[], .exited code⟩

/-- A program that fails with a message. -/
def failing (code : Nat) (message : String) : Conduct :=
  ⟨[(2, bytesOf (message ++ "\n"))], .exited code⟩

/-- A program that is called the wrong way. -/
def misused (name message : String) : Conduct :=
  failing 1 (name ++ ": " ++ message ++ "\nTry '" ++ name ++ " --help' for more information.")

/-! ## Options -/

/-- What a program is told about its call. -/
inductive Told where
  | option (letter : Char) (argument : String)
  | help
  | version
  deriving DecidableEq, Repr

/-- The options of a program. -/
structure OptionTable where
  /-- the letters of options without an argument -/
  plain : List Char
  /-- the letters of options with an argument -/
  valued : List Char
  /-- the long names of options and the letters they stand for -/
  names : List (String × Char)
  /-- whether options may stand behind operands -/
  anywhere : Bool

namespace OptionTable

/-- The long names that a text may be short for, those of every program included. -/
def fitting (t : OptionTable) (name : String) : List (String × Option Char) :=
  let names := (t.names.map fun n => (n.1, some n.2)) ++ [("help", none), ("version", none)]
  match names.filter fun n => n.1 == name with
  | [] => names.filter fun n => n.1.startsWith name
  | exact => exact

/-- What a long option tells, given its text behind the dashes and the arguments after it; also
returns those that it leaves. -/
def long (t : OptionTable) (text : String) (rest : List String) :
    Except String (Told × List String) :=
  let name := text.toList.takeWhile (· != '=')
  let value := text.toList.drop (name.length + 1)
  let hasValue := text.toList.contains '='
  match t.fitting (String.ofList name) with
  | [] => .error ("unrecognized option '--" ++ text ++ "'")
  | [(full, letter)] =>
    let told (argument : String) : Told := match letter with
      | some c => .option c argument
      | none => if full == "help" then .help else .version
    if letter.any t.valued.contains then
      if hasValue then .ok (told (String.ofList value), rest)
      else match rest with
        | argument :: rest => .ok (told argument, rest)
        | [] => .error ("option '--" ++ full ++ "' requires an argument")
    else if hasValue then .error ("option '--" ++ full ++ "' doesn't allow an argument")
    else .ok (told "", rest)
  | several => .error ("option '--" ++ text ++ "' is ambiguous; possibilities:" ++
      String.join (several.map fun n => " '--" ++ n.1 ++ "'"))

/-- What the letters behind a dash tell, given the arguments after them; also returns those that
they leave. -/
def short (t : OptionTable) : List Char → List String → Except String (List Told × List String)
  | [], rest => .ok ([], rest)
  | c :: cs, rest =>
    if t.plain.contains c then
      (t.short cs rest).map fun r => (.option c "" :: r.1, r.2)
    else if t.valued.contains c then
      match cs, rest with
      | [], [] => .error ("option requires an argument -- '" ++ c.toString ++ "'")
      | [], argument :: rest => .ok ([.option c argument], rest)
      | cs, rest => .ok ([.option c (String.ofList cs)], rest)
    else .error ("invalid option -- '" ++ c.toString ++ "'")

/-- What arguments tell and the operands among them. Nothing is read after a call for help. -/
def read (t : OptionTable) : (fuel : Nat) → List String →
    Except String (List Told × List String)
  | 0, rest => .ok ([], rest)
  | _, [] => .ok ([], [])
  | fuel + 1, a :: rest =>
    match a.toList with
    | ['-', '-'] => .ok ([], rest)
    | '-' :: '-' :: text => do
      let (told, rest) ← t.long (String.ofList text) rest
      if told == .help || told == .version then pure ([told], [])
      else
        let (more, operands) ← t.read fuel rest
        pure (told :: more, operands)
    | '-' :: c :: cs => do
      let (told, rest) ← t.short (c :: cs) rest
      let (more, operands) ← t.read fuel rest
      pure (told ++ more, operands)
    | _ =>
      if t.anywhere then do
        let (told, operands) ← t.read fuel rest
        pure (told, a :: operands)
      else .ok ([], a :: rest)

/-- Runs a program on what its arguments tell and on its operands. `usage` is how it is called. -/
def call (t : OptionTable) (name usage : String) (arguments : List String)
    (run : List Told → List String → Conduct) : Conduct :=
  match t.read (arguments.length + 1) arguments with
  | .error message => misused name message
  | .ok (told, operands) =>
    if told.contains .help then printing (bytesOf ("Usage: " ++ usage ++ "\n"))
    else if told.contains .version then printing (bytesOf (name ++ " (GNU coreutils)\n"))
    else run told operands

end OptionTable

end TestPlanner.Shell
