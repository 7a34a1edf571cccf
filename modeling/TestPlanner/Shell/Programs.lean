import TestPlanner.Shell.Concatenation
import TestPlanner.Shell.Printf

/-!
# Small programs

The programs that field detectors are put together from: they write their arguments, copy files,
take paths apart or do nothing at all. Each is a function of its arguments and its input; the files
it may read are those of a workspace.
-/

set_option autoImplicit false

namespace TestPlanner.Shell

/-- Arguments with a space between neighbours. -/
def spaced (arguments : List String) : String := " ".intercalate arguments

/-! ## Writing arguments -/

/-- The bytes of a line feed. -/
def lineFeed : List UInt8 := [10]

/-- Writes arguments as one line, escapes replaced; after `-n` the line is not ended. -/
def echoEscaped (arguments : List String) : Conduct :=
  let (ends, arguments) := match arguments with
    | "-n" :: rest => (false, rest)
    | all => (true, all)
  let (output, goesOn) := unescape false (spaced arguments).toList
  printing (output ++ if ends && goesOn then lineFeed else [])

/-- Whether an argument consists of the options of `echo`. -/
def isEchoOption (a : String) : Bool :=
  match a.toList with
  | '-' :: c :: s => (c :: s).all fun c => c == 'n' || c == 'e' || c == 'E'
  | _ => false

/-- Writes arguments as one line; `-e` asks for escapes, and after `-n` the line is not ended. -/
def echo (arguments : List String) : Conduct :=
  let options := (arguments.takeWhile isEchoOption).flatMap String.toList
  let words := arguments.dropWhile isEchoOption
  let replaces := (options.filter fun c => c == 'e' || c == 'E').getLast? == some 'e'
  let ends := !options.contains 'n'
  let (output, goesOn) :=
    if replaces then unescape true (spaced words).toList else (bytesOf (spaced words), true)
  printing (output ++ if ends && goesOn then lineFeed else [])

/-- Writes a format and its arguments. -/
def printf (arguments : List String) : Conduct :=
  match if arguments.head? == some "--" then arguments.tail else arguments with
  | [] => misused "printf" "missing operand"
  | format :: arguments =>
    let r := formatted format arguments
    let errors := r.faults.flatMap fun f =>
      bytesOf ("printf: " ++ f.message (some quotedName) ++ "\n")
    ⟨[(1, r.output), (2, errors)], .exited (min r.code 1)⟩

/-! ## Paths -/

/-- A path without slashes at its end. -/
def dropSlashes (path : List Char) : List Char := (path.reverse.dropWhile (· == '/')).reverse

/-- The last part of a path, without a suffix unless nothing else is left. -/
def lastPart (suffix path : String) : String :=
  let s := dropSlashes path.toList
  let name := if s.isEmpty then path.toList.take 1 else (s.reverse.takeWhile (· != '/')).reverse
  let suffix := suffix.toList
  if suffix.isSuffixOf name && suffix.length < name.length && !s.isEmpty then
    String.ofList (name.take (name.length - suffix.length))
  else String.ofList name

/-- The part of a path before its last part. -/
def parentPart (path : String) : String :=
  let s := dropSlashes path.toList
  let before := s.reverse.dropWhile (· != '/')
  let parent := dropSlashes before.reverse
  if s.isEmpty then if path.isEmpty then "." else "/"
  else if before.isEmpty then "."
  else if parent.isEmpty then "/"
  else String.ofList parent

/-- Texts, each ended by a line feed or by a zero byte. -/
def endedTexts (byZero : Bool) (texts : List String) : List UInt8 :=
  texts.flatMap fun s => bytesOf s ++ if byZero then [0] else lineFeed

/-- Writes the last parts of paths: of one path, which a suffix may follow, or of several. -/
def basename (arguments : List String) : Conduct :=
  OptionTable.call ⟨['a', 'z'], ['s'], [("multiple", 'a'), ("suffix", 's'), ("zero", 'z')], false⟩
    "basename" "basename NAME [SUFFIX]\n  or:  basename OPTION... NAME..." arguments
    fun told operands =>
      let suffix := told.filterMap fun
        | .option 's' suffix => some suffix
        | _ => none
      let byZero := told.contains (.option 'z' "")
      if !suffix.isEmpty || told.contains (.option 'a' "") then
        if operands.isEmpty then misused "basename" "missing operand"
        else printing (endedTexts byZero (operands.map (lastPart (suffix.getLastD ""))))
      else match operands with
        | [] => misused "basename" "missing operand"
        | [path] => printing (endedTexts byZero [lastPart "" path])
        | [path, suffix] => printing (endedTexts byZero [lastPart suffix path])
        | _ :: _ :: extra :: _ => misused "basename" ("extra operand " ++ quotedName extra)

/-- Writes the parts of paths before their last parts. -/
def dirname (arguments : List String) : Conduct :=
  OptionTable.call ⟨['z'], [], [("zero", 'z')], true⟩ "dirname" "dirname [OPTION] NAME..."
    arguments fun told operands =>
      if operands.isEmpty then misused "dirname" "missing operand"
      else printing (endedTexts (told.contains (.option 'z' "")) (operands.map parentPart))

/-! ## Time -/

/-- Whether a text is a span of time: a number of seconds, or of what a letter behind it says. -/
def isSpan (text : String) : Bool :=
  let s := text.toList
  let isUnit := match s.getLast? with
    | some c => c == 's' || c == 'm' || c == 'h' || c == 'd'
    | none => false
  let number := if isUnit then s.dropLast else s
  let whole := number.takeWhile Char.isDigit
  match number.drop whole.length with
  | [] => !whole.isEmpty
  | '.' :: part => part.all Char.isDigit && !(whole.isEmpty && part.isEmpty)
  | _ => false

/-- Waits for a while, which nobody notices. -/
def sleep (arguments : List String) : Conduct :=
  OptionTable.call ⟨[], [], [], true⟩ "sleep" "sleep NUMBER[SUFFIX]...\n  or:  sleep OPTION"
    arguments fun _ operands =>
      let wrong := operands.filter fun a => !isSpan a
      if arguments.isEmpty then misused "sleep" "missing operand"
      else if wrong.isEmpty then ending 0
      else misused "sleep" ("\nsleep: ".intercalate
        (wrong.map fun a => "invalid time interval " ++ quotedName a))

/-- The programs by their names, each given its workspace, input and arguments. -/
def programs : List (String × (Files.Workspace → List UInt8 → List String → Conduct)) :=
  [("true", fun _ _ _ => ending 0), ("false", fun _ _ _ => ending 1),
    ("cat", cat), ("echo", fun _ _ a => echo a), ("printf", fun _ _ a => printf a),
    ("basename", fun _ _ a => basename a), ("dirname", fun _ _ a => dirname a),
    ("sleep", fun _ _ a => sleep a)]

end TestPlanner.Shell
