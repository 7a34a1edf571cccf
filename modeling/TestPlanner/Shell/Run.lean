import TestPlanner.Shell.Builtins
import TestPlanner.Shell.Sum

/-!
# Running shell scripts

A script is run in a workspace, which it can change. Its commands are those of the shell itself, its
functions, and small programs; one of these is the shell, so scripts may run scripts.

What a command writes goes where its channels lead. The parts of a pipeline, groups in parentheses
and the scripts in words are run in states of their own, of which only files, input, output and the
exit code are seen afterwards.

A run is given a limit on how deep commands may be nested and how many may follow one another.
-/

set_option autoImplicit false

namespace TestPlanner.Shell

open Files (Workspace)

/-! ## Programs -/

/-- How a fault is called that keeps a file from being read. -/
def readFaultText : FileFault → String
  | .notFound => "No such file"
  | fault => faultText fault

/-- How a fault is called that keeps a file from being written. -/
def writeFaultText : FileFault → String
  | .notFound => "Directory nonexistent"
  | fault => faultText fault

/-- A text without the line feeds at its end. -/
def dropLineFeeds (s : List Char) : List Char := (s.reverse.dropWhile (· == '\n')).reverse

/-- The name of a program without the directory that programs are in. -/
def programName (name : String) : String :=
  if name.startsWith "/bin/" then (name.drop 5).toString
  else if name.startsWith "/usr/bin/" then (name.drop 9).toString
  else name

/-- The directories that programs are looked for in, before a script says otherwise. -/
def searchPath : String := "/usr/local/sbin:/usr/local/bin:/usr/sbin:/usr/bin:/sbin:/bin"

/-- Whether a program is found by its name alone. -/
def isOnPath (path : Option String) (name : String) : Bool :=
  name.toList.contains '/' ||
    ((path.getD searchPath).splitOn ":").any fun d => d == "/bin" || d == "/usr/bin"

/-- What a program is given: files, an environment, something to read, and signals to ignore. -/
structure Surroundings where
  workspace : Workspace
  environment : List (String × String)
  input : List UInt8
  ignored : List Nat

/-- What a program leaves: what it did, the files, and what it did not read. -/
structure Outcome where
  conduct : Conduct
  workspace : Workspace
  input : List UInt8

/-! ## Starts and ends -/

/-- The state in which a script starts. -/
def startState (given : Surroundings) (name : String) (arguments : List String)
    (options : List Char) : State :=
  { workspace := given.workspace
    name := name
    arguments := arguments
    bindings :=
      [("IFS", " \t\n"), ("PWD", "/" ++ "/".intercalate given.workspace.directory),
        ("OPTIND", "1"), ("PS1", "# "), ("PS2", "> "), ("PS4", "+ ")] ++
      given.environment.filter fun v => !(["IFS", "PWD", "OPTIND"].contains v.1)
    exported := given.environment.map Prod.fst
    options := options
    traps := given.ignored.map fun n => (n, "")
    channels := [(0, .source 0), (1, .buffer 1), (2, .buffer 2)]
    sources := [(0, given.input)]
    fresh := 3 }

/-- What a script that has ended leaves. -/
def finished (st : State) : Outcome :=
  let writes := st.written.reverse.filter fun w => w.1 == 1 || w.1 == 2
  ⟨⟨writes, st.status⟩, st.workspace, (st.sources.lookup 0).getD []⟩

/-- The options among the letters of an argument. The letter `o` takes the name of an option from
the arguments; also returns those that are left, or the mistake of an option that is none. -/
def letterOptions (isOn : Bool) : List Char → List String →
    Except String (List Char × List String)
  | [], arguments => .ok ([], arguments)
  | 'o' :: cs, [] => letterOptions isOn cs []
  | 'o' :: cs, name :: arguments =>
    match optionNames.lookup name with
    | some c => (letterOptions isOn cs arguments).map fun r =>
        (if isOn then c.toList ++ r.1 else r.1, r.2)
    | none => .error ("Illegal option -o " ++ name)
  | c :: cs, arguments =>
    if c == 'c' || c == 'l' || optionNames.any fun o => o.2 == some c then
      (letterOptions isOn cs arguments).map fun r => (if isOn then c :: r.1 else r.1, r.2)
    else .error ("Illegal option -" ++ c.toString)

/-- How the shell is called: its options and the arguments after them, or a mistake. -/
def shellCall : (fuel : Nat) → List Char → List String → Except String (List Char × List String)
  | 0, options, rest => .ok (options, rest)
  | _, options, [] => .ok (options, [])
  | fuel + 1, options, a :: rest =>
    match a.toList with
    | ['-'] => .ok (options, rest)
    | ['-', '-'] => .ok (options, rest)
    | sign :: cs =>
      if sign == '-' || sign == '+' then
        match letterOptions (sign == '-' || cs.contains 'c') cs rest with
        | .ok (more, rest) => shellCall fuel (options ++ more) rest
        | .error message => .error message
      else .ok (options, a :: rest)
    | [] => .ok (options, a :: rest)

/-- Whether the script ends because a command failed. -/
def checked (tested : Bool) (st : State) : State :=
  if st.code != 0 && !tested && st.options.contains 'e' && st.flow == .on then
    { st with flow := .ended }
  else st

/-- The state after one turn of a loop, and whether there is another. -/
def afterTurn (st : State) : State × Bool :=
  match st.flow with
  | .on => (st, true)
  | .leave n => ({ st with flow := if n ≤ 1 then .on else .leave (n - 1) }, false)
  | .next n => if n ≤ 1 then ({ st with flow := .on }, true)
    else ({ st with flow := .next (n - 1) }, false)
  | _ => (st, false)

/-- Tells about a simple command before it is run, if the script asks for that. -/
def traced (st : State) (sink : Option Sink) (assignments : List (String × String))
    (words : List String) : State :=
  let texts := assignments.map (fun a => a.1 ++ "=" ++ a.2) ++ words
  if st.options.contains 'x' && !texts.isEmpty then
    let sign := (st.bindings.lookup "PS4").getD ""
    st.putTo sink (bytesOf (sign ++ spaced texts ++ "\n"))
  else st

/-- Whether the arguments of a command that are assignments are left whole. -/
def keepsAssignments (words : List String) : Bool :=
  match words with
  | "command" :: name :: _ => ["export", "readonly", "local"].contains name
  | name :: _ => ["export", "readonly", "local"].contains name
  | [] => false

/-- Leads a channel to a file that is written. -/
def leadToFile (st : State) (channel : Nat) (kind : Redirecting) (path : String) :
    Except State State :=
  let fail (text : String) : Except State State :=
    .error (st.failed ("cannot create " ++ path ++ ": " ++ text) 2)
  if kind == .write && st.options.contains 'C' && st.workspace.isFile path then
    fail "File exists"
  else
    let old := if kind == .append then (st.workspace.read path).toOption.getD .empty else .empty
    match st.workspace.write path old, st.workspace.locate path with
    | .ok w, .ok place => .ok ({ st with workspace := w }.lead channel (some (.file place)))
    | .error fault, _ => fail (writeFaultText fault)
    | _, .error fault => fail (writeFaultText fault)

/-- Leads a channel elsewhere, or says why that cannot be. -/
def ledTo (st : State) (channel : Nat) (kind : Redirecting) (text : String) :
    Except State State :=
  match kind with
  | .here => .ok (st.feed channel (bytesOf text))
  | .join =>
    match text.toList with
    | ['-'] => .ok (st.lead channel none)
    | [c] =>
      if !c.isDigit then .error (st.broken "Syntax error: Bad fd number")
      else
        match st.channels.lookup (c.toNat - '0'.toNat) with
        | some sink => .ok (st.lead channel (some sink))
        | none => .error (st.failed (text ++ ": Bad file descriptor") 2)
    | _ => .error (st.broken "Syntax error: Bad fd number")
  | .read =>
    if text == "/dev/null" then .ok (st.feed channel [])
    else if text == "/dev/stdin" then .ok (st.lead channel (st.channels.lookup 0))
    else
      match st.workspace.read text with
      | .ok content => .ok (st.feed channel content.toList)
      | .error .isDirectory => .ok (st.feed channel [])
      | .error fault =>
        .error (st.failed ("cannot open " ++ text ++ ": " ++ readFaultText fault) 2)
  | kind =>
    if text == "/dev/null" then .ok (st.lead channel (some .nowhere))
    else if text == "/dev/stdout" then .ok (st.lead channel (st.channels.lookup 1))
    else if text == "/dev/stderr" then .ok (st.lead channel (st.channels.lookup 2))
    else leadToFile st channel kind text

/-! ## Scripts -/

mutual
/-- Runs the lines of a script; `ran` tells whether any command was run before. If none is run at
all, that is a success. -/
def runLines : (fuel : Nat) → (total : Nat) → State → (tested ran : Bool) → List Char → State
  | 0, _, st, _, _, _ => st
  | fuel + 1, total, st, tested, ran, source =>
    if st.flow != .on then st
    else if source.isEmpty then if ran then st else st.fine
    else
      match firstLine total source with
      | .ok (steps, rest) =>
        let after := runSteps fuel st tested steps
        if rest.length < source.length then
          runLines fuel total after tested (ran || !steps.isEmpty) rest
        else after
      | .error fault => { st with line := fault.line }.broken ("Syntax error: " ++ fault.message)

/-- Runs a text in a state. -/
def runText : (fuel : Nat) → State → (tested : Bool) → List Char → State
  | 0, st, _, _ => st
  | fuel + 1, st, tested, source => runLines fuel (lineEnds source) st tested false source

/-- Runs what is to be run at the end. -/
def runEnd : (fuel : Nat) → State → State
  | 0, st => st
  | fuel + 1, st =>
    match st.traps.lookup 0, st.flow with
    | none, _ => st
    | some _, .killed _ => st
    | some action, _ =>
      let traps := st.traps.filter fun t => t.1 != 0
      let start := { st with traps := traps, flow := .on, answered := some st.code }
      let after := runText fuel start true action.toList
      match after.flow with
      | .on => { after with flow := .ended, code := st.code }
      | _ => after

/-- Answers the signals that arrived. -/
def answer : (fuel : Nat) → State → State
  | 0, st => st
  | fuel + 1, st =>
    match st.arrived, st.wholeTraps, st.flow with
    | signal :: rest, none, .on =>
      let start := { st with arrived := rest, answered := some st.code }
      let after := runText fuel start true ((st.traps.lookup signal).getD "").toList
      let code := if after.flow == .on then st.code else after.code
      answer fuel { after with code := code, answered := st.answered }
    | _, _, _ => st

/-- Runs steps one after the other. A step that decides about the next one does not end the script
by its failure; nor does any step whose outcome is `tested`. -/
def runSteps : (fuel : Nat) → State → (tested : Bool) → List Step → State
  | 0, st, _, _ => st
  | _ + 1, st, _, [] => st
  | fuel + 1, st, tested, .mk condition negated background commands :: rest =>
    if st.flow != .on || st.options.contains 'n' then st
    else
      let decides := match rest with
        | .mk .always .. :: _ => false
        | [] => false
        | _ => true
      let isDue := match condition with
        | .always => true
        | .afterSuccess => st.code == 0
        | .afterFailure => st.code != 0
      let after :=
        if !isDue then st
        else if background then
          let start := st.feed 0 []
          let part := runApart fuel start false (.group [.mk .always false false commands])
          { st.afterApart part with code := 0 }
        else
          let after := runPipeline fuel st (tested || decides || negated) commands
          if negated && after.flow == .on then
            { after with code := if after.code == 0 then 1 else 0 }
          else after
      runSteps fuel after tested rest

/-- Runs the commands of a pipeline. A command that is alone runs in the script's own state; of
several, each runs in a state of its own and reads what the one before it wrote. -/
def runPipeline : (fuel : Nat) → State → (tested : Bool) → List Command → State
  | 0, st, _, _ => st
  | _ + 1, st, _, [] => st
  | fuel + 1, st, tested, [c] => runCommand fuel st tested c
  | fuel + 1, st, tested, c :: rest =>
    let after := runParts fuel st tested (c :: rest)
    answer fuel (checked tested { after with channels := st.channels })

/-- Runs the parts of a pipeline. -/
def runParts : (fuel : Nat) → State → (tested : Bool) → List Command → State
  | 0, st, _, _ => st
  | _ + 1, st, _, [] => st
  | fuel + 1, st, tested, [c] => st.afterApart (runApart fuel st tested c)
  | fuel + 1, st, tested, c :: rest =>
    let inner := { st.lead 1 (some (.buffer st.fresh)) with fresh := st.fresh + 1 }
    let (output, part) := (runApart fuel inner tested c).taken st.fresh
    let after := { st.afterApart part with code := st.code }
    runParts fuel (after.feed 0 output) tested rest

/-- Runs a command in a state of its own. -/
def runApart : (fuel : Nat) → State → (tested : Bool) → Command → State
  | 0, st, _, _ => st
  | fuel + 1, st, tested, c => runEnd fuel (runCommand fuel st.apart tested c)

/-- Runs a command. -/
def runCommand : (fuel : Nat) → State → (tested : Bool) → Command → State
  | 0, st, _, _ => st
  | fuel + 1, st, tested, c =>
    match c with
    | .simple line assignments ws rs =>
      let start := { st with line := line }
      answer fuel (checked tested (runSimple fuel start tested assignments ws rs))
    | .group body => runSteps fuel st tested body
    | .apart body =>
      answer fuel (checked tested (st.afterApart (runApart fuel st tested (.group body))))
    | .branch condition body otherwise =>
      let after := runSteps fuel st true condition
      if after.flow != .on then after
      else if after.code == 0 then runSteps fuel after tested body
      else runSteps fuel { after with code := 0 } tested otherwise
    | .loop inverted condition body =>
      let after := runLoop fuel { st with loops := st.loops + 1 } tested inverted condition body 0
      { after with loops := st.loops }
    | .each line name ws body =>
      let st := { st with line := line }
      let (words, after) := match ws with
        | some ws => expandAll fuel st ws
        | none => (st.arguments, st)
      if after.flow != .on then after
      else
        let start := { after with loops := st.loops + 1 }
        let start := if words.isEmpty then start.fine else start
        let after := runEach fuel start tested name body words
        { after with loops := st.loops }
    | .select line subject clauses =>
      let (text, after) := expandText fuel { st with line := line } subject
      if after.flow != .on then after else runClauses fuel after tested text clauses
    | .define name body =>
      { st with
        functions := (name, body) :: st.functions.filter fun f => !(f.1 == name)
        code := 0 }
    | .redirected line c rs =>
      match redirect fuel { st with line := line } rs with
      | .ok inner => { runCommand fuel inner tested c with channels := st.channels }
      | .error failed => checked tested { failed with channels := st.channels }

/-- Runs the turns of a loop; `code` is the exit code of the last turn. -/
def runLoop : (fuel : Nat) → State → (tested inverted : Bool) → (condition body : List Step) →
    (code : Nat) → State
  | 0, st, _, _, _, _, _ => st
  | fuel + 1, st, tested, inverted, condition, body, code =>
    let (after, goesOn) := afterTurn (runSteps fuel st true condition)
    if !goesOn then after
    else if (after.code == 0) == inverted then { after with code := code }
    else
      let (after, goesOn) := afterTurn (runSteps fuel after tested body)
      if goesOn then runLoop fuel after tested inverted condition body after.code else after

/-- Runs a loop over words. -/
def runEach : (fuel : Nat) → State → (tested : Bool) → String → List Step → List String → State
  | 0, st, _, _, _, _ => st
  | _ + 1, st, _, _, _, [] => st
  | fuel + 1, st, tested, name, body, word :: words =>
    let st := assign st name word
    if st.flow != .on then st
    else
      let (after, goesOn) := afterTurn (runSteps fuel st tested body)
      if goesOn then runEach fuel after tested name body words else after

/-- Runs the first clause with a pattern that a text matches. -/
def runClauses : (fuel : Nat) → State → (tested : Bool) → String →
    List (List Word × List Step) → State
  | 0, st, _, _, _ => st
  | _ + 1, st, _, _, [] => st.fine
  | fuel + 1, st, tested, text, (patterns, body) :: clauses =>
    let (holds, st) := matchesAny fuel st text patterns
    if st.flow != .on then st
    else if holds then if body.isEmpty then st.fine else runSteps fuel st tested body
    else runClauses fuel st tested text clauses

/-- Whether a text matches one of some patterns. -/
def matchesAny : (fuel : Nat) → State → String → List Word → Bool × State
  | 0, st, _, _ => (false, st)
  | _ + 1, st, _, [] => (false, st)
  | fuel + 1, st, text, w :: ws =>
    let (ms, st) := expand fuel st w
    if st.flow != .on then (false, st)
    else if (Pattern.ofWord (glyphs ms)).describes text then (true, st)
    else matchesAny fuel st text ws

/-- Leads channels elsewhere, or says why that cannot be. -/
def redirect : (fuel : Nat) → State → List Redirection → Except State State
  | 0, st, _ => .ok st
  | _ + 1, st, [] => .ok st
  | fuel + 1, st, .mk channel kind word :: rest =>
    let (text, st) := expandText fuel st word
    if st.flow != .on then
      -- a text for commands is expanded only when it is read
      .error (if kind == .here && st.flow == .broken then { st with flow := .on } else st)
    else
      match ledTo st channel kind text with
      | .ok st => redirect fuel st rest
      | .error st => .error st

/-- Runs a simple command: its words are expanded first, then channels are led elsewhere, then
variables are assigned. -/
def runSimple : (fuel : Nat) → State → (tested : Bool) → List (String × Word) → List Word →
    List Redirection → State
  | 0, st, _, _, _, _ => st
  | fuel + 1, st, tested, assignments, ws, rs =>
    let (words, st) := expandAll fuel { st with substituted := 0 } ws
    if st.flow != .on then st
    else
      let isSpecial := specialNames.contains (words.headD "")
      match redirect fuel st rs with
      | .error failed =>
        { failed with
          channels := st.channels
          flow := if isSpecial && failed.flow == .on then .broken else failed.flow }
      | .ok inner =>
        let (values, inner) := assignAll fuel inner assignments
        if inner.flow != .on then { inner with channels := st.channels }
        else
          let inner := traced inner (st.channels.lookup 2) values words
          match words with
          | [] => { inner with code := inner.substituted, channels := st.channels }
          | name :: arguments =>
            let isOwn := isSpecial
            let after := runNamed fuel inner tested (assignments.map Prod.fst) name arguments
            let after :=
              if isSpecial then after
              else
                (assignments.map fun a => (a.1, st.bindings.lookup a.1)).foldl State.restore after
            if isOwn && (words == ["exec"] || words == ["command", "exec"]) then after
            else { after with channels := st.channels }

/-- Assigns variables one after the other; also returns their values. -/
def assignAll : (fuel : Nat) → State → List (String × Word) → List (String × String) × State
  | 0, st, _ => ([], st)
  | _ + 1, st, [] => ([], st)
  | fuel + 1, st, (name, w) :: rest =>
    let (text, st) := expandText fuel st w
    let st := if st.flow == .on then assign st name text else st
    if st.flow != .on then ([], st)
    else
      let (more, st) := assignAll fuel st rest
      ((name, text) :: more, st)

/-- Runs the command of a name. `assigned` are the variables that were assigned for it. -/
def runNamed : (fuel : Nat) → State → (tested : Bool) → (assigned : List String) → String →
    List String → State
  | 0, st, _, _, _, _ => st
  | fuel + 1, st, tested, assigned, name, arguments =>
    match if specialNames.contains name then none else st.functions.lookup name with
    | some body =>
      let start :=
        { st with
          arguments := arguments
          exported := assigned ++ st.exported
          hidden := [] :: st.hidden
          loops := 0
          inner := true }
      let after := runCommand fuel start tested body
      let after := (after.hidden.headD []).foldl State.restore after
      { after with
        arguments := st.arguments
        exported := after.exported.filter fun n => st.exported.contains n || !assigned.contains n
        hidden := st.hidden
        loops := st.loops
        inner := st.inner
        flow := if after.flow == .back then .on else after.flow }
    | none =>
      if name == "eval" then
        let after := runText fuel { st with speaker := some name } tested (spaced arguments).toList
        { after with speaker := st.speaker }
      else if name == "." then
        match arguments with
        | path :: _ =>
          if !path.toList.contains '/' then st.refuse name (path ++ ": not found")
          else
            match st.workspace.readText path with
            | .ok source =>
              let start := { st with speaker := some path, inner := true }
              let after := runText fuel start tested source.toList
              { after with
                speaker := st.speaker
                inner := st.inner
                flow := if after.flow == .back then .on else after.flow }
            | .error .isDirectory => st.fine
            | .error fault => st.refuse name ("cannot open " ++ path ++ ": " ++ readFaultText fault)
        | [] => st.fine
      else if name == "exec" then
        match arguments with
        | [] => st.fine
        | program :: rest =>
          match external fuel st assigned program rest with
          | .ok outcome =>
            let workspace := { outcome.workspace with directory := st.workspace.directory }
            let st := { st with workspace := workspace }.wrote outcome.conduct
            match outcome.conduct.status with
            | .exited code => { st with flow := .ended, code := code, traps := [] }
            | .killed signal => { st with flow := .killed signal }
          | .error (text, code) => { st.refuse name (program ++ ": " ++ text) with code := code }
      else if name == "command" then
        match optionsOf ['p', 'v', 'V'] arguments with
        | .error c => st.refuse name ("Illegal option -" ++ c.toString)
        | .ok (options, rest) =>
          match rest with
          | [] => st.fine
          | program :: others =>
            if options.contains 'v' || options.contains 'V' then
              described st (options.contains 'V') program
            else
              let after := runNamed fuel { st with functions := [] } tested assigned program others
              { after with
                functions := st.functions
                flow := if after.flow == .broken then .on else after.flow }
      else if name == ":" || name == "true" then st.fine
      else if specialNames.contains name || builtinNames.contains name then
        builtinOrFault st name arguments
      else
        match external fuel st assigned name arguments with
        | .ok outcome =>
          let workspace := { outcome.workspace with directory := st.workspace.directory }
          ({ st with workspace := workspace }.leave outcome.input).after outcome.conduct
        | .error (text, code) => st.failed (name ++ ": " ++ text) code

/-- Runs a program, or says why it cannot be run. It is given the variables that are exported or
assigned for it. -/
def external : (fuel : Nat) → State → (assigned : List String) → String → List String →
    Except (String × Nat) Outcome
  | 0, _, _, _, _ => .error ("not found", 127)
  | fuel + 1, st, assigned, name, arguments =>
    let environment := st.bindings.filter fun v =>
      st.exported.contains v.1 || assigned.contains v.1
    let ignored := (st.traps.filter fun t => t.2.isEmpty).map Prod.fst
    let given : Surroundings := ⟨st.workspace, environment, st.input, ignored⟩
    let missing : Except (String × Nat) Outcome :=
      if name.isEmpty then .error ("Permission denied", 127)
      else if name.toList.contains '/' && st.workspace.has name then
        .error ("Permission denied", 126)
      else .error ("not found", 127)
    if !isOnPath (st.bindings.lookup "PATH") name then missing
    else
      match call fuel given name arguments with
      | some outcome => .ok outcome
      | none => missing

/-- The words of several words after expansion. -/
def expandAll : (fuel : Nat) → State → List Word → List String × State
  | 0, st, _ => ([], st)
  | fuel + 1, st, ws => expandOthers fuel st [] ws

/-- The words of several words after expansion, given the words before them. -/
def expandOthers : (fuel : Nat) → State → (before : List String) → List Word → List String × State
  | 0, st, before, _ => (before, st)
  | _ + 1, st, before, [] => (before, st)
  | fuel + 1, st, before, w :: rest =>
    let (ms, st) := expand fuel st w
    if st.flow != .on then ([], st)
    else
      let isKept := keepsAssignments before && (assignment? [] w).isSome
      let words := if isKept then [markedText ms]
        else (fields st.separators none false ms).flatMap (matchingWords st)
      expandOthers fuel st (before ++ words) rest

/-- The text of a word that is not split. -/
def expandText : (fuel : Nat) → State → Word → String × State
  | 0, st, _ => ("", st)
  | fuel + 1, st, w =>
    let (ms, st) := expand fuel st w
    (markedText ms, st)

/-- Expands the pieces of a word. -/
def expand : (fuel : Nat) → State → Word → List Mark × State
  | 0, st, _ => ([], st)
  | _ + 1, st, [] => ([], st)
  | fuel + 1, st, piece :: rest =>
    let (front, st) : List Mark × State :=
      match piece with
      | .text quoted s => ((if quoted then [.quotes] else []) ++ marks quoted false s, st)
      | .parameter quoted name modifier operand =>
        expandParameter fuel st quoted name modifier operand
      | .output quoted script =>
        let inner := { st.lead 1 (some (.buffer st.fresh)) with fresh := st.fresh + 1 }
        let (output, part) := (runApart fuel inner false (.group script)).taken st.fresh
        let text := dropLineFeeds
          ((Text.Utf8.lossy ⟨(output.filter (· != 0)).toArray⟩).toList)
        let after := st.afterApart part
        (marks quoted (!quoted) text, { after with code := st.code, substituted := after.code })
      | .sum quoted expression =>
        let (text, st) := expandText fuel st expression
        if st.flow != .on then ([], st)
        else
          match Sum.evaluate text.toList st.bindings with
          | .ok (n, bindings) =>
            let changed := bindings.find? fun v =>
              st.fixed.contains v.1 && st.bindings.lookup v.1 != some v.2
            match changed with
            | some v => ([], st.broken (v.1 ++ ": is read only"))
            | none =>
              (marks quoted (!quoted) (toString n).toList, { st with bindings := bindings })
          | .error fault => ([], st.broken (fault.message text))
    if st.flow != .on then (front, st)
    else
      let (back, st) := expand fuel st rest
      (front ++ back, st)

/-- Expands a parameter. -/
def expandParameter : (fuel : Nat) → State → (quoted : Bool) → (name : List Char) → Modifier →
    (operand : Word) → List Mark × State
  | 0, st, _, _, _, _ => ([], st)
  | fuel + 1, st, quoted, name, modifier, operand =>
    let isList := name == ['@'] || name == ['*']
    let value := st.value? name
    let shown : List Mark :=
      if name == ['@'] && quoted then
        match st.arguments.map fun a => Mark.quotes :: marks true false a.toList with
        | [] => []
        | first :: others => first ++ others.flatMap fun ms => Mark.gap :: ms
      else if isList && !quoted then
        (st.arguments.map fun a => marks false true a.toList).foldr
          (fun ms rest => if rest.isEmpty then ms else ms ++ Mark.gap :: rest) []
      else marks quoted (!quoted) (value.getD "").toList
    let isMissing := value.isNone && !isList && name != ['!'] && st.options.contains 'u'
    let missing : List Mark × State :=
      ([], st.broken (String.ofList name ++ ": parameter not set"))
    let operandMarks (st : State) : List Mark × State :=
      let (ms, st) := expand fuel st operand
      (if quoted then ms else loosened ms, st)
    match modifier with
    | .unknown => ([], st.broken "Bad substitution")
    | .plain =>
      if isMissing then missing
      else
        let (ms, st) := expand fuel st operand
        (shown ++ ms, st)
    | .length =>
      if isMissing then missing
      else (marks quoted (!quoted) (toString (value.getD "").utf8ByteSize).toList, st)
    | .fallback kind emptyToo =>
      let isSet := value.isSome && !(emptyToo && value == some "")
      match kind with
      | .use => if isSet then (shown, st) else operandMarks st
      | .replace => if isSet then operandMarks st else ([], st)
      | .assign =>
        if isSet then (shown, st)
        else
          let (ms, st) := operandMarks st
          let text := markedText ms
          if st.flow != .on then ([], st)
          else
            let st := assign st (String.ofList name) text
            (marks quoted (!quoted) text.toList, st)
      | .complain =>
        if isSet then (shown, st)
        else
          let (ms, st) := operandMarks st
          let text := if operand.isEmpty then
              if emptyToo then "parameter not set or null" else "parameter not set"
            else markedText ms
          ([], if st.flow != .on then st else st.broken (String.ofList name ++ ": " ++ text))
    | .trim atEnd longest =>
      if isMissing then missing
      else
        let (ms, st) := expand fuel st operand
        let pattern := Pattern.ofWord (glyphs ms)
        (marks quoted (!quoted) (pattern.trim atEnd longest (value.getD "")).toList, st)

/-- Calls a program by its name, if there is one. -/
def call : (fuel : Nat) → Surroundings → String → List String → Option Outcome
  | 0, _, _, _ => none
  | fuel + 1, given, name, arguments =>
    let name := programName name
    let failed (text : String) : Option Outcome :=
      some ⟨failing 2 ("sh: 0: " ++ text), given.workspace, given.input⟩
    if name == "sh" || name == "dash" then
      match shellCall (arguments.length + 1) [] arguments with
      | .error text => failed text
      | .ok (options, rest) =>
        let run (given : Surroundings) (script : String) (name : String)
            (arguments : List String) : Option Outcome :=
          let st := startState given name arguments (options.filter fun c => c != 'c' && c != 'l')
          let after := runText fuel st false script.toList
          some (finished (runEnd fuel after))
        if options.contains 'c' then
          match rest with
          | script :: rest => run given script (rest.headD name) rest.tail
          | [] => failed "-c requires an argument"
        else
          match if options.contains 's' then none else rest.head? with
          | some path =>
            match given.workspace.readText path with
            | .ok script => run given script path rest.tail
            | .error .isDirectory => run given "" path rest.tail
            | .error fault => failed ("cannot open " ++ path ++ ": " ++ readFaultText fault)
          | none =>
            run { given with input := [] } (Text.Utf8.lossy ⟨given.input.toArray⟩) name rest
    else
      (programs.lookup name).map fun run =>
        ⟨run given.workspace given.input arguments, given.workspace,
          if name == "cat" then [] else given.input⟩
end

/-- How deep commands and words may be nested, and how many may follow one another. -/
def limit : Nat := 1000000

/-- Carries out a call in a workspace, from the directory of the call. Programs read nothing. -/
def run : Runner := fun w c =>
  let place : Except FileFault Files.Place := match c.directory with
    | none => .ok w.directory
    | some path =>
      match w.locate path with
      | .ok p => if w.tree.isDirectory p then .ok p
        else .error (if (w.tree.get? p).isSome then .notDirectory else .notFound)
      | .error fault => .error fault
  let texts := c.program :: c.arguments ++ c.directory.toList
  if texts.any fun s => s.toList.contains '\x00' then .error .nullInCall
  else
    match place with
    | .error fault => .error fault
    | .ok p =>
      let here : Workspace := { w with directory := p }
      match call limit ⟨here, [], [], []⟩ c.program c.arguments with
      | some outcome =>
        .ok (outcome.conduct.result, { outcome.workspace with directory := w.directory })
      | none =>
        if c.program.toList.contains '/' && here.has c.program then .error .denied
        else .error .notFound

end TestPlanner.Shell
