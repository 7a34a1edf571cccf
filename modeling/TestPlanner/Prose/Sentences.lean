import TestPlanner.Text.Blank
import TestPlanner.Text.Case

/-!
# Sentences and word classes

A text is cut into sentences at full stops, exclamation marks and question marks. The words of a
sentence are runs of ASCII letters, apostrophes and hyphens that start with a letter.

A small lexicon marks the words. Verbs are listed actions on a user interface, inflections
included. Nouns are words directly after a determiner. People are capitalised words that do not
open the sentence. The marking keeps the order of the text and every repetition.
-/

set_option autoImplicit false

namespace TestPlanner.Prose

open Text

/-- The characters that end a sentence. -/
def endsSentence (c : Char) : Bool := c == '.' || c == '!' || c == '?'

/-- The sentences of a text, trimmed, blank ones left out. -/
def sentences (s : List Char) : List (List Char) := nonblankPieces endsSentence s

/-- The characters that continue a word. -/
def isWordChar (c : Char) : Bool := isAsciiLetter c || c == '\'' || c == '-'

/-- The rest of a word, then the words after it. -/
def wordsFrom (current : List Char) : List Char → List (List Char)
  | [] => if current.isEmpty then [] else [current.reverse]
  | c :: s =>
    if current.isEmpty then
      if isAsciiLetter c then wordsFrom [c] s else wordsFrom [] s
    else if isWordChar c then wordsFrom (c :: current) s
    else current.reverse :: wordsFrom [] s

/-- The words of a sentence. -/
def sentenceWords (s : List Char) : List (List Char) := wordsFrom [] s

/-- The listed verbs. -/
def verbs : List String :=
  ["access", "add", "browse", "buy", "cancel", "checkout", "choose", "click", "close", "create",
    "delete", "download", "edit", "enter", "fill", "filter", "find", "log", "login", "logout",
    "manage", "navigate", "open", "order", "pay", "purchase", "register", "remove", "reset",
    "save", "search", "select", "send", "sign", "sort", "submit", "type", "update", "upload",
    "view", "visit"]

/-- The listed determiners. -/
def determiners : List String :=
  ["a", "an", "the", "my", "your", "their", "his", "her", "this", "that", "each"]

/-- Capitalised first-person forms, which name nobody. -/
def firstPerson : List String := ["I", "I'm", "I'd", "I'll", "I've"]

/-- The endings of inflected verbs. -/
def verbEndings : List String := ["ing", "ed", "es", "s"]

/-- The start of a word before an ending. -/
def withoutEnding? (ending word : List Char) : Option (List Char) :=
  if ending.isSuffixOf word then some (word.take (word.length - ending.length)) else none

/-- Whether a word is one of the listed words. -/
def isListed (listed : List String) (word : List Char) : Bool :=
  listed.any fun w => w.toList == word

/-- Whether a word is a listed verb, or one with an ending in place of its final e or after it. -/
def isVerb (word : List Char) : Bool :=
  let small := lower word
  isListed verbs small ||
    verbEndings.any fun ending =>
      match withoutEnding? ending.toList small with
      | some stem => isListed verbs stem || isListed verbs (stem ++ ['e'])
      | none => false

/-- Whether a word is a determiner. -/
def isDeterminer (word : List Char) : Bool := isListed determiners (lower word)

/-- Whether a word that does not open its sentence names a person. -/
def isPerson (word : List Char) : Bool :=
  (word.head?.map isAsciiUpper).getD false && !isListed firstPerson word

/-- The marked words of a text and its sentences, each in document order. -/
structure Marking where
  people : List String
  nouns : List String
  verbs : List String
  sentences : List String
  deriving DecidableEq, Repr, Inhabited

/-- The words of one sentence by class, after the word `previous` if there is one. -/
def markWords (previous : Option (List Char)) : List (List Char) → Marking
  | [] => ⟨[], [], [], []⟩
  | word :: rest =>
    let after := markWords (some word) rest
    let text := String.ofList word
    let verb := isVerb word
    let noun := !verb && (previous.map isDeterminer).getD false
    let person := previous.isSome && isPerson word
    { people := if person then text :: after.people else after.people
      nouns := if noun then text :: after.nouns else after.nouns
      verbs := if verb then text :: after.verbs else after.verbs
      sentences := [] }

/-- The marking of one sentence. -/
def markSentence (sentence : List Char) : Marking :=
  { markWords none (sentenceWords sentence) with sentences := [String.ofList sentence] }

/-- The marking of a text. -/
def mark (text : List Char) : Marking :=
  let parts := (sentences text).map markSentence
  { people := parts.flatMap Marking.people
    nouns := parts.flatMap Marking.nouns
    verbs := parts.flatMap Marking.verbs
    sentences := parts.flatMap Marking.sentences }

end TestPlanner.Prose
