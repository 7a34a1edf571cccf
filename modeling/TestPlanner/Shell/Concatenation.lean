import TestPlanner.Files.Workspace
import TestPlanner.Shell.Arguments

/-!
# Concatenation

The program `cat`: it copies files, or its input for a dash, to its output one after the other, with
options that number lines, leave out repeated empty ones or make invisible characters visible.

Names in its messages are quoted where a shell would take them for something else.
-/

set_option autoImplicit false

namespace TestPlanner.Shell

/-- How a fault of a file is called in messages. -/
def faultText : FileFault → String
  | .isDirectory => "Is a directory"
  | .notDirectory => "Not a directory"
  | .nameTooLong => "File name too long"
  | .denied => "Permission denied"
  | _ => "No such file or directory"

/-! ## Names in messages -/

/-- The characters that make a name be quoted wherever they stand. -/
def quotedSigns : List Char := " !\"$&()*;<=>[^\x60|?\\':".toList

/-- Whether a byte is a visible character. -/
def isVisible (b : UInt8) : Bool := 32 ≤ b.toNat && b.toNat < 127

/-- The escape of a byte that is no visible character. -/
def byteEscape (b : UInt8) : String :=
  let digit (n : Nat) : Char := Char.ofNat ('0'.toNat + n % 8)
  match [(7, "\\a"), (8, "\\b"), (9, "\\t"), (10, "\\n"), (11, "\\v"), (12, "\\f"),
    (13, "\\r")].lookup b.toNat with
  | some s => s
  | none => String.ofList ['\\', digit (b.toNat / 64), digit (b.toNat / 8), digit b.toNat]

/-- The bytes of a name between single quotes; `escaping` tells that escapes are open. -/
def quotedBytes (escaping : Bool) : List UInt8 → String
  | [] => "'"
  | b :: bs =>
    if !isVisible b then (if escaping then "" else "'$'") ++ byteEscape b ++ quotedBytes true bs
    else if b.toNat == '\''.toNat then "'\\''" ++ quotedBytes false bs
    else (if escaping then "''" else "") ++ (Char.ofNat b.toNat).toString ++ quotedBytes false bs

/-- A name as messages show it. -/
def shownName (name : String) : String :=
  let s := name.toList
  let isOdd := s.isEmpty || s == ['\x7b'] || s == ['\x7d'] || s.head? == some '#' ||
    s.head? == some '~' || s.any quotedSigns.contains || (bytesOf name).any fun b => !isVisible b
  let isMild := (bytesOf name).all isVisible && s.contains '\'' &&
    s.all fun c => c == ' ' || c == '\'' || !quotedSigns.contains c
  if !isOdd then name
  else if isMild then "\"" ++ name ++ "\""
  else "'" ++ quotedBytes false (bytesOf name)

/-- A word in quotes, as other messages show it. -/
def quotedName (name : String) : String :=
  let shown (b : UInt8) : String :=
    if !isVisible b then byteEscape b
    else if b.toNat == '\''.toNat || b.toNat == '\\'.toNat then
      String.ofList ['\\', Char.ofNat b.toNat]
    else (Char.ofNat b.toNat).toString
  "'" ++ String.join ((bytesOf name).map shown) ++ "'"

/-! ## Lines -/

/-- How lines are copied. -/
structure CopyOptions where
  numbers : Bool := false
  numbersFilled : Bool := false
  squeezes : Bool := false
  showsEnds : Bool := false
  showsTabs : Bool := false
  showsOthers : Bool := false

/-- A byte in visible characters. -/
def visibleByte (b : UInt8) : List UInt8 :=
  let low (n : Nat) : String :=
    if n == 127 then "^?" else if n < 32 then String.ofList ['^', Char.ofNat (n + 64)]
    else (Char.ofNat n).toString
  bytesOf (if b.toNat < 128 then low b.toNat else "M-" ++ low (b.toNat - 128))

/-- A line as the options ask for it, and whether it ended. -/
def copiedLine (o : CopyOptions) (line : List UInt8) (ended : Bool) : List UInt8 :=
  let text := line.flatMap fun b =>
    if b == 9 then if o.showsTabs then bytesOf "^I" else [b]
    else if o.showsOthers then visibleByte b
    else [b]
  let text :=
    if ended && o.showsEnds && !o.showsOthers && line.getLast? == some 13 then
      text.dropLast ++ bytesOf "^M"
    else text
  text ++ if ended then (if o.showsEnds then bytesOf "$" else []) ++ [10] else []

/-- A number in front of a line. -/
def lineNumber (n : Nat) : List UInt8 :=
  let ds := Nat.toDigits 10 n
  bytesOf (String.ofList (List.replicate (6 - ds.length) ' ' ++ ds ++ ['\t']))

/-- Copies lines, given the number of the next one and whether the last one was empty. -/
def copiedLines (o : CopyOptions) : (fuel : Nat) → (next : Nat) → (afterEmpty : Bool) →
    List UInt8 → List UInt8
  | 0, _, _, _ => []
  | _, _, _, [] => []
  | fuel + 1, next, afterEmpty, s =>
    let line := s.takeWhile (· != 10)
    let rest := s.drop line.length
    let ended := !rest.isEmpty
    let isEmpty := ended && line.isEmpty
    if isEmpty && afterEmpty && o.squeezes then copiedLines o fuel next true rest.tail
    else
      let isNumbered := if o.numbersFilled then !isEmpty else o.numbers
      (if isNumbered then lineNumber next else []) ++ copiedLine o line ended ++
        copiedLines o fuel (if isNumbered then next + 1 else next) isEmpty rest.tail

/-! ## Calls -/

/-- The options of the program. -/
def copyTable : OptionTable :=
  ⟨"AbeEnstTuv".toList, [],
    [("number-nonblank", 'b'), ("number", 'n'), ("squeeze-blank", 's'), ("show-nonprinting", 'v'),
      ("show-ends", 'E'), ("show-tabs", 'T'), ("show-all", 'A')], true⟩

/-- The ways to copy lines that options ask for. -/
def CopyOptions.ofTold (told : List Told) : CopyOptions :=
  let has (letters : String) : Bool := letters.toList.any fun c => told.contains (.option c "")
  { numbers := has "n"
    numbersFilled := has "b"
    squeezes := has "s"
    showsEnds := has "EeA"
    showsTabs := has "TtA"
    showsOthers := has "vetA" }

/-- Copies one part after the other, after those that were copied before, or says why a part cannot
be copied. -/
def copiedParts (o : CopyOptions) (before : List UInt8) :
    List (String × Except FileFault (List UInt8)) → List (Nat × List UInt8)
  | [] => []
  | (_, .ok content) :: parts =>
    let all := before ++ content
    let copied (s : List UInt8) : List UInt8 := copiedLines o (s.length + 1) 1 false s
    (1, (copied all).drop (copied before).length) :: copiedParts o all parts
  | (name, .error fault) :: parts =>
    (2, bytesOf ("cat: " ++ shownName name ++ ": " ++ faultText fault ++ "\n")) ::
      copiedParts o before parts

/-- Copies files, or its input for a dash, to its output one after the other. -/
def cat (w : Files.Workspace) (input : List UInt8) (arguments : List String) : Conduct :=
  copyTable.call "cat" "cat [OPTION]... [FILE]..." arguments fun told names =>
    let names := if names.isEmpty then ["-"] else names
    let writes := copiedParts (.ofTold told) [] (names.zipIdx.map fun (name, n) =>
      if name == "-" then (name, .ok (if (names.take n).contains name then [] else input))
      else (name, (w.read name).map ByteArray.toList))
    ⟨writes, .exited (if writes.any fun w => w.1 == 2 then 1 else 0)⟩

end TestPlanner.Shell
