import TestPlanner.Text.Blank
import TestPlanner.Text.Case

/-!
# Names derived from labels and titles

Labels found on a page become identifiers, and feature names become directory, file and class
names. Both keep ASCII letters and digits only, so that every derived name is a legal identifier
or path component after a fixed start.

**Identifiers.** A label is stripped to its letters and digits. An empty result, or one that starts
with a digit, is put behind the word `element`; then the first letter is made small.

**Feature names.** A title is cleaned to words of letters and digits with single spaces between
them. A ticket key in front of it, three or four capitals and a hyphen, is kept as it stands, as
long as something is left of the rest.
-/

set_option autoImplicit false

namespace TestPlanner.Naming

open Text

/-- The ASCII letters and digits of a text. -/
def alphanumerics (s : List Char) : List Char :=
  s.filter isAsciiAlphanumeric

/-- A string's ASCII letters and digits. -/
def stripped (s : String) : String :=
  String.ofList (alphanumerics s.toList)

/-- The word in front of an identifier that has no letter to start with. -/
def genericElement : List Char := "element".toList

/-- The identifier for a label, as characters. -/
def identifierChars (label : List Char) : List Char :=
  let kept := alphanumerics label
  lowerFirst <| match kept with
    | [] => genericElement
    | c :: _ => if isAsciiDigit c then genericElement ++ kept else kept

/-- The identifier for a label. -/
def identifier (label : String) : String :=
  String.ofList (identifierChars label.toList)

/-- A text reduced to words of ASCII letters and digits, single spaces between them. -/
def cleanWords (s : List Char) : List Char :=
  trim (collapseBlanks (s.filter fun c => isAsciiAlphanumeric c || isBlank c))

/-- The ticket key in front of a title, and the title after the hyphen: three or four capitals, the
hyphen, and a rest that is not empty and has no line feed. -/
def ticketKey? (s : List Char) : Option (List Char × List Char) :=
  let key := s.takeWhile isAsciiUpper
  match s.dropWhile isAsciiUpper with
  | '-' :: rest =>
    if (key.length == 3 || key.length == 4) && !rest.isEmpty && !rest.contains '\n' then
      some (key, rest)
    else none
  | _ => none

/-- The cleaned form of a feature name, as characters. -/
def sanitizeChars (name : List Char) : List Char :=
  match ticketKey? name with
  | some (key, rest) =>
    let title := cleanWords rest
    if title.isEmpty then cleanWords name else key ++ '-' :: title
  | none => cleanWords name

/-- The cleaned form of a feature name. -/
def sanitize (name : String) : String :=
  String.ofList (sanitizeChars name.toList)

/-- A string with its first character in upper case. -/
def capitalized (s : String) : String :=
  String.ofList (capitalizeFirst s.toList)

/-- A string with its first character in lower case. -/
def uncapitalized (s : String) : String :=
  String.ofList (lowerFirst s.toList)

end TestPlanner.Naming
