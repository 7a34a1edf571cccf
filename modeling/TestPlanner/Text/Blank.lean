/-!
# Blank characters, words and lines

The blank characters are those with Unicode's property `White_Space`. Trimming, splitting into
words and splitting at separators are stated over lists of characters, so that each is one
structural recursion; `Text.trim` is the only one of them that the rest of the library also uses on
strings.
-/

set_option autoImplicit false

namespace TestPlanner.Text

/-- The characters with the property `White_Space`. -/
def isBlank (c : Char) : Bool :=
  let n := c.toNat
  (9 ≤ n && n ≤ 13) || n == 0x20 || n == 0x85 || n == 0xA0 || n == 0x1680 ||
    (0x2000 ≤ n && n ≤ 0x200A) || n == 0x2028 || n == 0x2029 || n == 0x202F || n == 0x205F ||
    n == 0x3000

/-- The text without its leading blanks. -/
def trimStart (s : List Char) : List Char :=
  s.dropWhile isBlank

/-- The text without its trailing blanks. -/
def trimEnd (s : List Char) : List Char :=
  (s.reverse.dropWhile isBlank).reverse

/-- The text without the blanks on either side. -/
def trim (s : List Char) : List Char :=
  trimEnd (trimStart s)

/-- A string without the blanks on either side. -/
def trimmed (s : String) : String :=
  String.ofList (trim s.toList)

/-- Whether a text holds nothing but blanks. -/
def allBlank (s : List Char) : Bool :=
  s.all isBlank

/-- The trimmed pieces of a text that are not blank, in order. -/
def nonblankPieces (p : Char → Bool) (s : List Char) : List (List Char) :=
  ((s.splitOnP p).map trim).filter fun piece => !piece.isEmpty

/-- The trimmed lines of a text that are not blank, in order. -/
def nonblankLines (s : List Char) : List (List Char) :=
  nonblankPieces (· == '\n') s

/-- The maximal runs of characters that are not blank, in order. -/
def words (s : List Char) : List (List Char) :=
  (s.splitOnP isBlank).filter fun piece => !piece.isEmpty

/-- Each run of blanks replaced by one space. -/
def collapseBlanks : List Char → List Char
  | [] => []
  | [c] => if isBlank c then [' '] else [c]
  | c :: d :: s =>
    if isBlank c then
      if isBlank d then collapseBlanks (d :: s) else ' ' :: collapseBlanks (d :: s)
    else c :: collapseBlanks (d :: s)

/-- The pieces with `separator` between neighbours. -/
def joinWith (separator : List Char) : List (List Char) → List Char
  | [] => []
  | [piece] => piece
  | piece :: pieces => piece ++ separator ++ joinWith separator pieces

/-- Whether `word` occurs in a text. -/
def occursIn (word : List Char) : List Char → Bool
  | [] => word.isEmpty
  | c :: s => word.isPrefixOf (c :: s) || occursIn word s

/-- The rest of a text after `word`, when the text starts with it. -/
def after? : (word s : List Char) → Option (List Char)
  | [], s => some s
  | _ :: _, [] => none
  | w :: word, c :: s => if w == c then after? word s else none

end TestPlanner.Text
