import TestPlanner.Text.Ranges
import TestPlanner.Text.WidthData

/-!
# Display widths

How many terminal columns a text takes on one line. A character alone takes two columns if it is a
wide character of an East Asian script or a pictograph, none if it only marks or formats its
neighbours, and one otherwise. Some characters take other widths together: a variation selector
turns a sign into an emoji, emoji join into one picture, and a few scripts join two letters into
one shape.

A text is read from its last character to its first, and what a character adds depends on a
summary of what follows it. The summary holds the shape that the following characters make and a
variation selector that still waits for its character.
-/

set_option autoImplicit false

namespace TestPlanner.Text

/-- The columns a character takes alone. -/
def charWidth (c : Char) : Nat :=
  let code := c.toNat
  if code < 0xA1 then 1
  else if code = 0x17D8 then 3
  else if inRanges zeroWidthRanges code then 0
  else if inRanges wideRanges code || code = 0x115F || code = 0x17A4 then 2
  else 1

/-- The shapes that the characters after a character can make, as far as it matters for its
width. -/
inductive Shape
  /-- Nothing that can be joined. -/
  | plain
  /-- An emoji, or a sequence shown as one. -/
  | emoji
  /-- A skin tone. -/
  | skin
  /-- One letter of a flag. -/
  | flagLetter
  /-- Several letters of flags. -/
  | flagLetters
  /-- A joiner before an emoji. -/
  | joined
  /-- A keycap before a joined emoji. -/
  | joinedKeycap
  /-- The letters of a flag before a joined emoji, and whether their number is even. -/
  | joinedFlag (even : Bool)
  /-- The only letter of a flag before a joined emoji. -/
  | joinedFlagLetter
  /-- The end of a tagged flag before a joined emoji, and its letters and digits. -/
  | joinedTags (letters digits : Nat)
  /-- An Arabic alef. -/
  | alef
  /-- A Hebrew lamed, and whether a joiner stands before it. -/
  | lamed (joiner : Bool)
  /-- A Buginese ya, and whether a joiner stands before it. -/
  | ya (joiner : Bool)
  /-- A Buginese vowel before a joined ya. -/
  | vowelYa
  /-- A Tifinagh consonant, and whether a joiner stands before it. -/
  | consonant (joiner : Bool)
  /-- The Tifinagh consonant joiner before a consonant. -/
  | joinedConsonant
  /-- A second tone letter of Lisu. -/
  | toneLetter
  /-- An Orkhon i, and whether a joiner stands before it. -/
  | orkhonI (joiner : Bool)
  /-- A Khmer letter that can stand under another. -/
  | coeng
  /-- The Kirat Rai vowel e. -/
  | kiratE
  /-- The Kirat Rai vowel ai. -/
  | kiratAi
  deriving DecidableEq, Repr

/-- What a variation selector asks of the character before it. -/
inductive Selector
  /-- To be shown as an emoji. -/
  | emoji
  /-- To be shown as text. -/
  | text
  /-- To be shown as a wide quotation mark. -/
  | wide
  deriving DecidableEq, Repr

/-- What follows a character. -/
structure Following where
  shape : Shape := .plain
  selector : Option Selector := none
  deriving DecidableEq, Repr

namespace Shape

/-- A letter of a script whose letters join across marks that are not shown. -/
def isLetter : Shape → Bool
  | .lamed _ | .ya _ | .vowelYa | .consonant _ | .joinedConsonant | .toneLetter | .orkhonI _
  | .coeng | .kiratE | .kiratAi => true
  | _ => false

/-- The shape with a joiner before it. -/
def withJoiner : Shape → Shape
  | .lamed _ => .lamed true
  | .ya _ => .ya true
  | .consonant _ => .consonant true
  | .orkhonI _ => .orkhonI true
  | s => s

/-- A joiner stands before an emoji, so that another can be joined to it. -/
def isJoined : Shape → Bool
  | .joined | .joinedKeycap => true
  | _ => false

/-- The shape seen across a variation selector that no character takes. -/
def acrossSelector (s : Shape) : Shape :=
  if s.isLetter || s = .alef then s else .plain

/-- The shape that a character starts alone. -/
def ofChar (c : Char) : Shape :=
  let code := c.toNat
  if inRanges emojiRanges code then .emoji
  else if 0x1F3FB ≤ code && code ≤ 0x1F3FF then .skin
  else if 0x1F1E6 ≤ code && code ≤ 0x1F1FF then .flagLetter
  else if inRanges alefRanges code then .alef
  else if code = 0x5DC then .lamed false
  else if code = 0x1A10 then .ya false
  else if inRanges tifinaghRanges code then .consonant false
  else if code = 0xA4FC || code = 0xA4FD then .toneLetter
  else if code = 0x10C03 then .orkhonI false
  else if inRanges coengRanges code then .coeng
  else if code = 0x16D67 then .kiratE
  else if code = 0x16D68 then .kiratAi
  else .plain

/-- What a character adds in front of a shape that it joins, and the shape they make. -/
def join? (s : Shape) (c : Char) : Option (Int × Shape) :=
  let code := c.toNat
  let flag := 0x1F1E6 ≤ code && code ≤ 0x1F1FF
  let tagLetter := 0xE0061 ≤ code && code ≤ 0xE007A
  let tagDigit := 0xE0030 ≤ code && code ≤ 0xE0039
  match s with
  | .alef =>
    if inRanges lamRanges code then some (0, .plain)
    else if charWidth c = 0 && !inRanges nonjoiningRanges code then some (0, .alef)
    else none
  | .lamed joiner => if joiner && code = 0x5D0 then some (0, .plain) else none
  | .ya joiner => if joiner && code = 0x1A17 then some (0, .vowelYa) else none
  | .vowelYa => if code = 0x1A15 then some (0, .plain) else none
  | .consonant joiner =>
    if code = 0x2D7F then some (1, .joinedConsonant)
    else if joiner && inRanges tifinaghRanges code then some (0, .plain)
    else none
  | .joinedConsonant => if inRanges tifinaghRanges code then some (-1, .plain) else none
  | .toneLetter => if 0xA4F8 ≤ code && code ≤ 0xA4FB then some (0, .plain) else none
  | .orkhonI joiner => if joiner && code = 0x10C32 then some (0, .plain) else none
  | .coeng => if code = 0x17D2 then some (-1, .plain) else none
  | .kiratE =>
    if code = 0x16D63 || code = 0x16D69 then some (0, .plain)
    else if code = 0x16D67 then some (0, .kiratAi)
    else if code = 0x16D68 then some (1, .kiratE)
    else none
  | .kiratAi => if code = 0x16D63 then some (0, .plain) else none
  | .emoji => if code = 0x200D then some (0, .joined) else none
  | .skin =>
    if code = 0x200D then some (0, .joined)
    else if inRanges skinRanges code then some (0, .emoji)
    else none
  | .flagLetter => if flag then some (1, .flagLetters) else none
  | .flagLetters =>
    if code = 0x200D then some (0, .joined) else if flag then some (1, .flagLetters) else none
  | .joined =>
    if code = 0x20E3 then some (0, .joinedKeycap)
    else if flag then some (1, .joinedFlagLetter)
    else if 0x1F3FB ≤ code && code ≤ 0x1F3FF then some (0, .skin)
    else if code = 0xE007F then some (0, .joinedTags 0 0)
    else if inRanges emojiRanges code then some (0, .emoji)
    else none
  | .joinedFlagLetter => if flag then some (-1, .joinedFlag true) else none
  | .joinedFlag even =>
    if code = 0x200D then some (0, .joined)
    else if flag then some (if even then 3 else -1, .joinedFlag !even)
    else none
  | .joinedTags letters digits =>
    if tagLetter && digits = 0 && letters < 6 then some (0, .joinedTags (letters + 1) 0)
    else if tagDigit && digits < 3 && (0 < digits || letters ≤ 4) then
      some (0, .joinedTags letters (digits + 1))
    else if code = 0x1F3F4 && (digits = 3 || (digits = 0 && 3 ≤ letters)) then some (0, .emoji)
    else none
  | .joinedKeycap | .plain => none

end Shape

/-- What a character adds in front of a shape, no selector standing between them. -/
def addBefore (s : Shape) (c : Char) : Int × Following :=
  let code := c.toNat
  let mark := inRanges hiddenMarkRanges code
  if code < 0xA1 then (1, {})
  else if code = 0xFE0F then (0, ⟨if s.isJoined then s else s.acrossSelector, some .emoji⟩)
  else if code = 0xFE0E then (0, ⟨s.acrossSelector, some .text⟩)
  else if code = 0xFE01 then (0, ⟨s.acrossSelector, some .wide⟩)
  else if s.isLetter && code = 0x200D then (0, ⟨s.withJoiner, none⟩)
  else if s.isLetter && mark then (0, ⟨s, none⟩)
  else match s.join? c with
    | some (width, shape) => (width, ⟨shape, none⟩)
    | none => (charWidth c, ⟨.ofChar c, none⟩)

/-- What a character adds in front of what follows it. A selector is taken by a character that it
is meant for and is skipped otherwise. -/
def addTo (next : Following) (c : Char) : Int × Following :=
  let code := c.toNat
  let selectable := inRanges selectableRanges code
  match next.selector with
  | none => addBefore next.shape c
  | some .emoji =>
    if selectable then (if next.shape.isJoined then 0 else 2, ⟨.emoji, none⟩)
    else addBefore next.shape.acrossSelector c
  | some .text =>
    if selectable && inRanges emojiRanges code && !(0x1F200 ≤ code && code ≤ 0x1F2FF) then (1, {})
    else addBefore next.shape.acrossSelector c
  | some .wide =>
    if code ∈ [0x2018, 0x2019, 0x201C, 0x201D] then (2, {})
    else addBefore next.shape.acrossSelector c

/-- The columns a text takes when it is printed on one line. -/
def displayWidth (s : List Char) : Nat :=
  (s.foldr (fun c rest =>
    let added := addTo rest.2 c
    (rest.1 + added.1, added.2)) ((0, {}) : Int × Following)).1.toNat

end TestPlanner.Text
