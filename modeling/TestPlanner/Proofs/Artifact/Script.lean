import TestPlanner.Artifact.PageObject
import TestPlanner.Proofs.Artifact.Matching
import TestPlanner.Proofs.Artifact.PageCall

/-!
# Reading scripts

The generated scripts refer to each other by name: one declares and exports a class, two others take
it over by an import, and they call elements that the class assigns. Here these statements are read
back from lines: the class that a line declares or exports (`nameBetween?`), the names that it takes
over and where from (`imported?`), the property that it assigns (`assignment?`), and the element
that it calls (`elementCall?`). Each is recognised from the start of the line, and only in the
layout that the scripts have.

A name of a script is read as far as its characters go, so a name is read back whole if all its
characters are those of names, and something else follows.
-/

set_option autoImplicit false

namespace TestPlanner

open Text

/-! ## Names -/

/-- An ASCII character of a name in a script. -/
def isNameChar (c : Char) : Bool := isAsciiAlphanumeric c || c == '_' || c == '$'

/-- An ASCII name in a script: characters of names, and no digit first. -/
def isScriptName (name : String) : Bool :=
  match name.toList with
  | [] => false
  | c :: rest => !isAsciiDigit c && (c :: rest).all isNameChar

theorem nameChars_of_isScriptName {name : String} (valid : isScriptName name = true) :
    ∀ c ∈ name.toList, isNameChar c = true := by
  unfold isScriptName at valid
  split at valid
  next => cases valid
  next c rest chars =>
    rw [Bool.and_eq_true] at valid
    rw [chars]
    exact List.all_eq_true.mp valid.2

/-- The name at the front of a text. -/
def nameOf (s : List Char) : String := String.ofList (s.takeWhile isNameChar)

/-- What follows the name at the front of a text. -/
def behindName (s : List Char) : List Char := s.dropWhile isNameChar

theorem nameOf_append {name : String} (chars : ∀ c ∈ name.toList, isNameChar c = true)
    {c : Char} (other : isNameChar c = false) (rest : List Char) :
    nameOf (name.toList ++ c :: rest) = name := by
  rw [nameOf, List.takeWhile_append_of_pos chars, List.takeWhile_cons_of_neg (by simp [other]),
    List.append_nil, String.ofList_toList]

theorem behindName_append {name : String} (chars : ∀ c ∈ name.toList, isNameChar c = true)
    {c : Char} (other : isNameChar c = false) (rest : List Char) :
    behindName (name.toList ++ c :: rest) = c :: rest := by
  rw [behindName, List.dropWhile_append_of_pos chars, List.dropWhile_cons_of_neg (by simp [other])]

/-! ## Reading line by line -/

/-- What is read from lines, with what the first line gives on its own. -/
theorem filterMap_cons_append {α β : Type} (read : α → Option β) (x : α) (xs : List α) :
    (x :: xs).filterMap read = (read x).toList ++ xs.filterMap read := by
  rw [List.filterMap_cons]
  cases read x with
  | none => rfl
  | some y => rfl

/-! ## The start of a line -/

/-- What follows a word at the start of a text. -/
def behind? (word : String) (s : List Char) : Option (List Char) := s.dropPrefix? word.toList

theorem behind?_append (word rest : String) :
    behind? word (word ++ rest).toList = some rest.toList := by
  rw [behind?, String.toList_append, List.dropPrefix?_append_of_beq _ (BEq.refl _)]

theorem ofList_eq_of_behind? {word : String} {s rest : List Char}
    (found : behind? word s = some rest) : String.ofList s = word ++ String.ofList rest := by
  obtain ⟨own, split, same⟩ := List.dropPrefix?_eq_some_iff.mp found
  rw [← String.toList_inj, String.toList_ofList, split, eq_of_beq same, String.toList_append,
    String.toList_ofList]

theorem eq_of_behind? {word line : String} {rest : List Char}
    (found : behind? word line.toList = some rest) : line = word ++ String.ofList rest := by
  rw [← ofList_eq_of_behind? found, String.ofList_toList]

/-- Two texts differ before either of them ends. -/
def Clash (front word : String) : Prop :=
  front.toList.take word.toList.length ≠ word.toList.take front.toList.length

instance (front word : String) : Decidable (Clash front word) :=
  inferInstanceAs (Decidable (front.toList.take _ ≠ word.toList.take _))

/-- A text does not start with a word if it starts with something else. -/
theorem behind?_eq_none {word front : String} (rest : String) (clash : Clash front word) :
    behind? word (front ++ rest).toList = none := by
  cases found : behind? word (front ++ rest).toList with
  | none => rfl
  | some tail =>
    obtain ⟨own, split, same⟩ := List.dropPrefix?_eq_some_iff.mp found
    rw [eq_of_beq same, String.toList_append] at split
    refine absurd ?_ clash
    calc front.toList.take word.toList.length
        = ((front.toList ++ rest.toList).take front.toList.length).take word.toList.length := by
          rw [List.take_left]
      _ = ((word.toList ++ tail).take word.toList.length).take front.toList.length := by
          rw [split, List.take_take, List.take_take, Nat.min_comm]
      _ = word.toList.take front.toList.length := by rw [List.take_left]

/-- A word with something behind it, by the first character of the word. -/
theorem toList_append_of_cons (word : String) {c : Char} {tail : List Char}
    (split : word.toList = c :: tail) (rest : String) :
    (word ++ rest).toList = c :: (tail ++ rest.toList) := by
  rw [String.toList_append, split, List.cons_append]

/-! ## Classes -/

/-- The property that a line of a constructor assigns, and the expression that is assigned. -/
def assignment? (line : String) : Option (String × String) := do
  let s ← behind? "    this." line.toList
  let value ← behind? " = " (behindName s)
  if value.getLast? = some ';' then some (nameOf s, String.ofList value.dropLast) else none

theorem assignment?_line {name : String} (chars : ∀ c ∈ name.toList, isNameChar c = true)
    (value : String) :
    assignment? ("    this." ++ (name ++ (" = " ++ (value ++ ";")))) = some (name, value) := by
  have ends : (value ++ ";").toList = value.toList ++ [';'] := String.toList_append
  have blank := toList_append_of_cons " = " rfl (value ++ ";")
  have own : nameOf (name ++ (" = " ++ (value ++ ";"))).toList = name := by
    rw [String.toList_append, blank, nameOf_append chars (by decide)]
  have back : behindName (name ++ (" = " ++ (value ++ ";"))).toList =
      (" = " ++ (value ++ ";")).toList := by
    rw [String.toList_append, blank, behindName_append chars (by decide)]
  rw [assignment?, behind?_append]
  simp only [Option.bind_eq_bind, Option.bind_some, back, behind?_append, own, ends,
    List.getLast?_concat, if_true, List.dropLast_concat, String.ofList_toList]

theorem assignment?_eq_none {front : String} (rest : String) (clash : Clash front "    this.") :
    assignment? (front ++ rest) = none := by
  rw [assignment?, behind?_eq_none rest clash]
  rfl

/-! ## Imports -/

/-- The names in a text, in order: its longest runs of characters of names. -/
def namesIn (s : List Char) : List String :=
  ((s.splitOnP fun c => !isNameChar c).filter fun name => !name.isEmpty).map String.ofList

/-- A literal with something behind it is read back. -/
theorem Text.Quoted.scan_literal (value rest : String) :
    Quoted.scan (Quoted.literal value ++ rest).toList = some (value.toList, rest.toList) := by
  have quote : "'".toList = ['\''] := by decide
  have body : (Quoted.literal value ++ rest).toList =
      '\'' :: (Quoted.encode value.toList ++ '\'' :: rest.toList) := by
    simp only [Quoted.literal, Quoted.escaped, String.toList_append, String.toList_ofList, quote,
      List.append_assoc, List.cons_append, List.nil_append]
  rw [body, Quoted.scan, Quoted.scanBody_encode]

/-- What reads as a literal with something behind it is that. -/
theorem Text.Quoted.ofList_eq_of_scan {s body rest : List Char}
    (read : scan s = some (body, rest)) :
    String.ofList s = literal (String.ofList body) ++ String.ofList rest := by
  have quote : "'".toList = ['\''] := by decide
  rw [scan_eq_some_iff.mp read, ← String.toList_inj]
  simp only [literal, escaped, String.toList_append, String.toList_ofList, quote,
    List.append_assoc, List.cons_append, List.nil_append]

end TestPlanner
