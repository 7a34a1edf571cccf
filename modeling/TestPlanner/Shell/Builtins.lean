import TestPlanner.Shell.Expanded
import TestPlanner.Shell.Programs
import TestPlanner.Shell.Script
import TestPlanner.Shell.Test

/-!
# Commands of the shell

The commands that the shell carries out itself and that need no others: those that change the state
of a script, and a few that are programs as well. A mistake in a call of a special command ends the
script; a mistake in a call of any other only makes it fail.
-/

set_option autoImplicit false

namespace TestPlanner.Shell

/-- The commands of the shell that are not special. -/
def builtinNames : List String :=
  ["[", "alias", "bg", "cd", "chdir", "command", "echo", "false", "fg", "getopts", "hash", "jobs",
    "kill", "printf", "pwd", "read", "test", "true", "type", "ulimit", "umask", "unalias", "wait"]

namespace State

/-- The state after a call of a command that is mistaken. -/
def refuse (st : State) (name text : String) : State :=
  let after := { st with speaker := some name }.failed text 2
  { after with
    speaker := st.speaker
    flow := if specialNames.contains name then .broken else st.flow }

/-- The state after a command that succeeded. -/
def fine (st : State) : State := { st with code := 0 }

/-- Writes a text as the output of a command that succeeded. -/
def say (st : State) (text : String) : State := { st.put 1 (bytesOf text) with code := 0 }

end State

/-- A text in quotes: its single quotes stand in double quotes, and the rest in single quotes. -/
def quotedParts : (fuel : Nat) → List Char → List Char
  | 0, _ => []
  | fuel + 1, s =>
    let plain := s.takeWhile (· != '\'')
    let rest := s.drop plain.length
    let marks := rest.takeWhile (· == '\'')
    let after := rest.drop marks.length
    '\'' :: plain ++ '\'' :: (if marks.isEmpty then [] else '"' :: marks ++ ['"']) ++
      if after.isEmpty then [] else quotedParts fuel after

/-- A text as it can be written in a script. -/
def inQuotes (s : String) : String := String.ofList (quotedParts (s.length + 1) s.toList)

/-! ## Arguments -/

/-- The number that an argument writes, if it is one. -/
def numberOf? (a : String) : Option Nat :=
  match Test.number a with
  | .ok n => if 0 ≤ n && n < 2147483648 then some n.toNat else none
  | .error _ => none

/-- Runs a command whose argument is a number. -/
def withNumber (st : State) (name : String) (argument : String) (run : Nat → State) : State :=
  match numberOf? argument with
  | some n => run n
  | none => st.refuse name ("Illegal number: " ++ argument)

/-- The letters of the options at the front of arguments, and the arguments after them; or a letter
that is no option. -/
def optionsOf (letters : List Char) : List String → Except Char (List Char × List String)
  | [] => .ok ([], [])
  | a :: rest =>
    match a.toList with
    | ['-', '-'] => .ok ([], rest)
    | '-' :: c :: cs =>
      match (c :: cs).find? fun c => !letters.contains c with
      | some c => .error c
      | none => (optionsOf letters rest).map fun r => (c :: cs ++ r.1, r.2)
    | _ => .ok ([], a :: rest)

/-- Runs a command with options. -/
def withOptions (st : State) (name letters : String) (arguments : List String)
    (run : List Char → List String → State) : State :=
  match optionsOf letters.toList arguments with
  | .ok (options, rest) => run options rest
  | .error c => st.refuse name ("Illegal option -" ++ c.toString)

/-! ## Variables -/

/-- The mistake in an assignment to a variable, if there is one. -/
def assignFault? (st : State) (name : String) : Option String :=
  if !isName name.toList then some (name ++ ": bad variable name")
  else if st.fixed.contains name then some (name ++ ": is read only")
  else none

/-- The state after an assignment. -/
def assigned (st : State) (name value : String) : State :=
  let st := st.set name value
  if st.options.contains 'a' then { st with exported := name :: st.exported } else st

/-- Assigns a variable where a mistake ends the script. -/
def assign (st : State) (name value : String) : State :=
  match assignFault? st name with
  | some fault => st.broken fault
  | none => assigned st name value

/-- The name and the value of an argument that may have an equals sign. -/
def splitAssignment (a : String) : String × Option String :=
  let name := a.toList.takeWhile (· != '=')
  match a.toList.drop name.length with
  | _ :: value => (String.ofList name, some (String.ofList value))
  | [] => (a, none)

/-- Writes variables by their names, those in alphabetical order. -/
def listed (st : State) (before : String) (names : List String) : State :=
  let lines := (names.eraseDups.mergeSort fun a b => a ≤ b).map fun name =>
    before ++ name ++ match st.bindings.lookup name with
      | some value => "=" ++ inQuotes value ++ "\n"
      | none => "\n"
  st.say (String.join lines)

/-- Marks variables, after assigning those that come with a value. -/
def declare (command : String) (mark : State → String → State) : State → List String → State
  | st, [] => st.fine
  | st, a :: rest =>
    let (name, value) := splitAssignment a
    match value, assignFault? st name with
    | none, fault =>
      if !isName name.toList then st.refuse command (fault.getD "")
      else declare command mark (mark st name) rest
    | some _, some fault => st.refuse command fault
    | some value, none => declare command mark (mark (assigned st name value) name) rest

/-- Hides variables in the running function, and assigns those that come with a value. -/
def localise : State → List String → State
  | st, [] => st.fine
  | st, a :: rest =>
    let (name, value) := splitAssignment a
    match st.hidden with
    | [] => st.refuse "local" "not in a function"
    | frame :: frames =>
      match assignFault? st name with
      | some fault => st.refuse "local" fault
      | none =>
        let hidden := ((name, st.bindings.lookup name) :: frame) :: frames
        let st := { st with hidden := hidden }
        localise (match value with
          | some value => assigned st name value
          | none => st) rest

/-- Removes variables. -/
def remove : State → List String → State
  | st, [] => st.fine
  | st, name :: rest =>
    match assignFault? st name with
    | some fault => st.refuse "unset" fault
    | none => remove { st.unset name with exported := st.exported.filter (· != name) } rest

/-! ## Options -/

/-- Switches an option on or off. -/
def switched (st : State) (isOn : Bool) (c : Char) : State :=
  let others := st.options.filter (· != c)
  { st with options := if isOn then c :: others else others }

/-- Writes which options are on, as a table or as commands. -/
def listedOptions (st : State) (isTable : Bool) : State :=
  let lines := optionNames.map fun o =>
    let isOn := o.2.any st.options.contains
    if isTable then
      o.1 ++ String.ofList (List.replicate (16 - o.1.length) ' ') ++ (if isOn then "on" else "off")
    else "set " ++ (if isOn then "-o " else "+o ") ++ o.1
  st.say (String.join (((if isTable then ["Current option settings"] else []) ++ lines).map
    (· ++ "\n")))

/-- Switches the options of some letters. The letter `o` takes the name of an option from the
arguments; also returns those that are left, or the mistake of an option that is none. -/
def switchLetters (st : State) (isOn : Bool) : List Char → List String →
    Except String (State × List String)
  | [], arguments => .ok (st, arguments)
  | 'o' :: cs, [] => switchLetters (listedOptions st isOn) isOn cs []
  | 'o' :: cs, name :: arguments =>
    match optionNames.lookup name with
    | some c => switchLetters ((c.map (switched st isOn)).getD st) isOn cs arguments
    | none => .error ("Illegal option -o " ++ name)
  | c :: cs, arguments =>
    if optionNames.any fun o => o.2 == some c then
      switchLetters (switched st isOn c) isOn cs arguments
    else .error ("Illegal option -" ++ c.toString)

/-- Sets options and arguments. -/
def setOptions : (fuel : Nat) → State → List String → State
  | 0, st, _ => st
  | _, st, [] => st
  | fuel + 1, st, a :: rest =>
    match a.toList with
    | ['-', '-'] => { st with arguments := rest }
    | ['-'] =>
      let st := switched (switched st false 'x') false 'v'
      if rest.isEmpty then st else { st with arguments := rest }
    | sign :: cs =>
      if sign == '-' || sign == '+' then
        match switchLetters st (sign == '-') cs rest with
        | .ok (st, rest) => setOptions fuel st rest
        | .error message => st.refuse "set" message
      else { st with arguments := a :: rest }
    | [] => { st with arguments := a :: rest }

/-! ## Input -/

/-- The first line of an input, what follows it, and whether the line ended. Unless `raw`, a
backslash quotes a character or joins lines. Each character comes with whether it is quoted. -/
def inputLine (raw : Bool) : List Char → List (Char × Bool) × List Char × Bool
  | [] => ([], [], false)
  | '\n' :: s => ([], s, true)
  | '\\' :: c :: s =>
    if raw then
      let (line, rest, ended) := inputLine raw (c :: s)
      (('\\', false) :: line, rest, ended)
    else
      let (line, rest, ended) := inputLine raw s
      (if c == '\n' then line else (c, true) :: line, rest, ended)
  | c :: s =>
    let (line, rest, ended) := inputLine raw s
    ((c, false) :: line, rest, ended)

/-- Drops separators that are blanks from the front. -/
def dropBlankSeparators (separators : List Char) (s : List (Char × Bool)) : List (Char × Bool) :=
  s.dropWhile fun c => !c.2 && separators.contains c.1 && (c.1 == ' ' || c.1 == '\t' || c.1 == '\n')

/-- The values that the names of `read` get from a line: one word each, and the last one all that is
left. -/
def readValues (separators : List Char) : (names : List String) → List (Char × Bool) →
    List (String × String)
  | [], _ => []
  | [name], s =>
    let s := dropBlankSeparators separators s
    let s := (dropBlankSeparators separators s.reverse).reverse
    let text := String.ofList (s.map Prod.fst)
    let isLone := match s.reverse with
      | (c, false) :: before =>
        separators.contains c && !before.any fun d => !d.2 && separators.contains d.1
      | _ => false
    [(name, if isLone then String.ofList (s.dropLast.map Prod.fst) else text)]
  | name :: names, s =>
    let s := dropBlankSeparators separators s
    let isSeparator (c : Char × Bool) : Bool := !c.2 && separators.contains c.1
    let word := s.takeWhile fun c => !isSeparator c
    let rest := s.drop word.length
    let rest := dropBlankSeparators separators rest
    let rest := match rest with
      | c :: after =>
        if isSeparator c then after else c :: after
      | [] => []
    (name, String.ofList (word.map Prod.fst)) :: readValues separators names rest

/-- Assigns what was read, up to the first mistake. -/
def assignRead : State → List (String × String) → State
  | st, [] => st
  | st, (target, value) :: rest =>
    let name := (splitAssignment target).1
    match assignFault? st name with
    | some fault => st.refuse "read" fault
    | none => assignRead (assigned st name value) rest

/-- The arguments of `read` after its options, and whether backslashes quote nothing; or a mistake.
A prompt is taken from the arguments, but nobody is there to see it. -/
def readCall (raw : Bool) : (fuel : Nat) → List String → Except String (Bool × List String)
  | 0, arguments => .ok (raw, arguments)
  | _, [] => .ok (raw, [])
  | fuel + 1, a :: rest =>
    match a.toList with
    | ['-', '-'] => .ok (raw, rest)
    | '-' :: c :: cs =>
      let isRaw := (c :: cs).takeWhile (· != 'p')
      match isRaw.find? (· != 'r') with
      | some c => .error ("Illegal option -" ++ c.toString)
      | none =>
        let raw := raw || !isRaw.isEmpty
        match (c :: cs).drop isRaw.length, rest with
        | [], rest => readCall raw fuel rest
        | ['p'], [] => .error "No arg for -p option"
        | ['p'], _ :: rest => readCall raw fuel rest
        | _, rest => readCall raw fuel rest
    | _ => .ok (raw, a :: rest)

/-- Reads a line of input into variables. -/
def readLine (st : State) (arguments : List String) : State :=
  match readCall false (arguments.length + 1) arguments with
  | .error message => st.refuse "read" message
  | .ok (_, []) => st.refuse "read" "arg count"
  | .ok (raw, names) =>
    let (line, rest, ended) := inputLine raw (Text.Utf8.lossy ⟨st.input.toArray⟩).toList
    let st := { st.leave (bytesOf (String.ofList rest)) with code := if ended then 0 else 1 }
    assignRead st (readValues st.separators names line)

/-! ## Signals -/

/-- The signals by name, without the letters that all names start with. -/
def signalNames : List (String × Nat) :=
  (List.range 32).filterMap fun n =>
    (ExitStatus.signalName? n).map fun s => ((s.drop 3).toString, n)

/-- The signal that a word names, by its number or its name. -/
def signal? (word : String) : Option Nat :=
  if !word.isEmpty && word.toList.all Char.isDigit then word.toNat?.filter (· < 65)
  else signalNames.lookup word.toUpper

/-- Sends a signal to the script. -/
def signalled (st : State) (signal : Nat) : State :=
  match (st.wholeTraps.getD st.traps).lookup signal with
  | some action => if action.isEmpty then st else { st with arrived := st.arrived ++ [signal] }
  | none =>
    let isIgnored := signal == 0 || (17 ≤ signal && signal ≤ 23) || signal == 28
    if isIgnored then st else { st with flow := .killed signal }

/-- How `kill` is called, for those who call it otherwise. -/
def killUsage : String :=
  "Usage: kill [-s sigspec | -signum | -sigspec] [pid | job]... or\nkill -l [exitstatus]"

/-- Sends a signal to processes. Only the script itself is known. -/
def send (signal : Nat) : State → List String → State
  | st, [] => st.fine
  | st, a :: rest =>
    if a.startsWith "%" then st.refuse "kill" ("No such job: " ++ a)
    else
      withNumber st "kill" a fun n =>
        if n != State.ownNumber then
          let after := { st with speaker := some "kill" }.failed "No such process\n" 1
          let after := send signal { after with speaker := st.speaker } rest
          { after with code := max 1 after.code }
        else send signal (signalled st signal) rest

/-- Sends a signal, or tells the name of one. -/
def kill (st : State) (arguments : List String) : State :=
  let sent (signal : Nat) (targets : List String) : State :=
    if targets.isEmpty then st.refuse "kill" killUsage else send signal st targets
  match arguments with
  | [] => st.refuse "kill" killUsage
  | option :: rest =>
    let word := (option.drop 1).toString
    if !option.startsWith "-" then sent 15 arguments
    else
      match signal? word with
      | some n => sent n rest
      | none =>
        match word.toList, rest with
        | ['-'], rest => sent 15 rest
        | ['s'], name :: rest =>
          match signal? name with
          | some n => sent n (if rest.head? == some "--" then rest.tail else rest)
          | none => st.refuse "kill" ("invalid signal number or name: " ++ name)
        | ['s'], [] => st.refuse "kill" "No arg for -s option"
        | ['l'], [] => st.say (String.join (signalNames.map fun s => s.1 ++ "\n"))
        | ['l'], a :: _ =>
          withNumber st "kill" a fun n =>
            let n := if n > 128 then n - 128 else n
            match signalNames.find? fun s => s.2 == n with
            | some s => st.say (s.1 ++ "\n")
            | none => st.refuse "kill" ("invalid signal number or exit status: " ++ a)
        | c :: _, _ => st.refuse "kill" ("Illegal option -" ++ c.toString)
        | [], _ => st.refuse "kill" ("Illegal number: -")

/-- Sets what is run for signals, up to a word that names none. -/
def trapped (action : Option String) : State → List String → State
  | st, [] => st.fine
  | st, name :: rest =>
    match if name.toUpper == "EXIT" then some 0 else signal? name with
    | none => { st.put 2 (bytesOf ("trap: " ++ name ++ ": bad trap\n")) with code := 1 }
    | some n =>
      let others := st.traps.filter fun t => t.1 != n
      trapped action
        { st with traps := (action.map fun a => (n, a)).toList ++ others } rest

/-- Sets or tells what is run for signals. -/
def trap (st : State) (arguments : List String) : State :=
  withOptions st "trap" "" arguments fun _ arguments =>
    match arguments with
    | [] =>
      let lines := (st.traps.mergeSort fun a b => a.1 ≤ b.1).map fun t =>
        let name := (signalNames.find? fun s => s.2 == t.1).map Prod.fst
        let other := if t.1 == 0 then "EXIT" else toString t.1
        "trap -- " ++ inQuotes t.2 ++ " " ++ name.getD other ++ "\n"
      st.say (String.join lines)
    | [name] => trapped none st [name]
    | action :: names =>
      if action.toList.all Char.isDigit && !action.isEmpty then trapped none st arguments
      else trapped (if action == "-" then none else some action) st names

/-! ## Names and places -/

/-- Goes to another directory. -/
def changeDirectory (st : State) (path : String) (shows : Bool) : State :=
  let target := if path.isEmpty then "." else path
  match st.workspace.locate target with
  | .ok p =>
    if st.workspace.tree.isDirectory p then
      let here := "/" ++ "/".intercalate p
      let old := (st.bindings.lookup "PWD").getD ""
      let st := ({ st with workspace := { st.workspace with directory := p } }.set "OLDPWD" old).set
        "PWD" here
      if shows then st.say (here ++ "\n") else st.fine
    else st.refuse "cd" ("can't cd to " ++ path)
  | .error _ => st.refuse "cd" ("can't cd to " ++ path)

/-- What the shell tells about a name. -/
def described (st : State) (verbose : Bool) (name : String) : State :=
  let tell (short long : String) : State := st.say ((if verbose then long else short) ++ "\n")
  if reservedWords.contains name then tell name (name ++ " is a shell keyword")
  else if (st.functions.lookup name).isSome then tell name (name ++ " is a shell function")
  else if specialNames.contains name then tell name (name ++ " is a special shell builtin")
  else if builtinNames.contains name then tell name (name ++ " is a shell builtin")
  else if name.toList.contains '/' && st.workspace.has name then tell name (name ++ " is " ++ name)
  else if name == "sh" || (programs.lookup name).isSome then
    tell ("/usr/bin/" ++ name) (name ++ " is /usr/bin/" ++ name)
  else
    { (if verbose then st.put 1 (bytesOf (name ++ ": not found\n")) else st) with code := 127 }

/-- What the shell tells about names, and whether it knows all of them. -/
def allDescribed (st : State) : List String → State
  | [] => st.fine
  | name :: names =>
    let st := described st true name
    let after := allDescribed st names
    { after with code := max st.code after.code }

/-! ## Commands -/

/-- Runs a command of the shell that needs no other commands. -/
def builtin (st : State) (name : String) (arguments : List String) : State :=
  let first := arguments.head?
  match name with
  | "false" => { st with code := 1 }
  | "echo" => st.after (echoEscaped arguments)
  | "printf" =>
    withOptions st name "" arguments fun _ arguments =>
      match arguments with
      | [] => st.refuse name "usage: printf format [arg ...]"
      | format :: rest =>
        let r := formatted format rest
        let messages := r.faults.map (FormatFault.message none)
        let after := messages.foldl State.complain { st with speaker := some name }
        { after.put 1 r.output with speaker := st.speaker, code := r.code }
  | "pwd" =>
    withOptions st name "LP" arguments fun _ _ =>
      st.say ("/" ++ "/".intercalate st.workspace.directory ++ "\n")
  | "cd" | "chdir" =>
    withOptions st "cd" "LP" arguments fun _ arguments =>
      if arguments.head? == some "-" then
        changeDirectory st ((st.bindings.lookup "OLDPWD").getD "") true
      else
        let home := (st.bindings.lookup "HOME").getD ""
        changeDirectory st (arguments.headD home) false
  | "exit" =>
    withNumber st name (first.getD (toString (st.answered.getD st.code))) fun n =>
      { st with code := n, flow := .ended }
  | "return" =>
    withNumber st name (first.getD (toString st.code)) fun n =>
      { st with code := n, flow := if st.inner then .back else .ended }
  | "break" =>
    withNumber st name (first.getD "1") fun n =>
      if n == 0 then st.refuse name "Illegal number: 0"
      else if st.loops == 0 then st.fine
      else { st with code := 0, flow := .leave (min n st.loops) }
  | "continue" =>
    withNumber st name (first.getD "1") fun n =>
      if n == 0 then st.refuse name "Illegal number: 0"
      else if st.loops == 0 then st.fine
      else { st with code := 0, flow := .next (min n st.loops) }
  | "shift" =>
    withNumber st name (first.getD "1") fun n =>
      if n > st.arguments.length then st.refuse name "can't shift that many"
      else { st with arguments := st.arguments.drop n, code := 0 }
  | "set" =>
    if arguments.isEmpty then listed st "" (st.bindings.map Prod.fst)
    else setOptions (arguments.length + 1) st.fine arguments
  | "unset" =>
    withOptions st name "fv" arguments fun options names =>
      if options.getLast? == some 'f' then
        { st with functions := st.functions.filter fun f => !names.contains f.1, code := 0 }
      else remove st names
  | "export" =>
    withOptions st name "p" arguments fun options names =>
      if names.isEmpty || !options.isEmpty then listed st "export " st.exported
      else declare name (fun st n => { st with exported := n :: st.exported }) st names
  | "readonly" =>
    withOptions st name "p" arguments fun options names =>
      if names.isEmpty || !options.isEmpty then listed st "readonly " st.fixed
      else declare name (fun st n => { st with fixed := n :: st.fixed }) st names
  | "local" =>
    if st.hidden.isEmpty then st.refuse name "not in a function" else localise st arguments
  | "read" => readLine st arguments
  | "kill" => kill st arguments
  | "type" => allDescribed st arguments
  | "trap" => trap st arguments
  | "hash" =>
    match first with
    | some program =>
      if (described st false program).code == 0 then st.fine
      else { st.refuse name (program ++ ": not found") with code := 1 }
    | none => st.fine
  | "umask" =>
    match first with
    | none => st.say "0022\n"
    | some "-S" => st.say "u=rwx,g=rx,o=rx\n"
    | some _ => st.fine
  | "times" =>
    let line := "0m0.000000s 0m0.000000s\n"
    st.say (line ++ line)
  | "wait" =>
    match first with
    | some a => withNumber st name a fun _ => { st with code := 127 }
    | none => st.fine
  | name =>
    if name == "test" || name == "[" then
      match Test.condition st.workspace name arguments with
      | .ok holds => { st with code := if holds then 0 else 1 }
      | .error message => st.refuse name message
    else st.fine

/-- Runs a command of the shell; it fails if it writes to a channel that is closed. -/
def builtinOrFault (st : State) (name : String) (arguments : List String) : State :=
  if (st.channels.lookup 1).isSome then builtin st name arguments
  else
    let start := { st.lead 1 (some (.buffer st.fresh)) with fresh := st.fresh + 1 }
    let (output, after) := (builtin start name arguments).taken st.fresh
    let after := after.lead 1 none
    if output.isEmpty then after
    else
      { { after with speaker := some name }.failed (name ++ ": I/O error") 1 with
        speaker := st.speaker }

end TestPlanner.Shell
