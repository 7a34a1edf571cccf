/-!
# JPEG headers

A JPEG file is a sequence of segments, each opened by a marker: a byte 255 and a byte that tells
the kind of the segment. All kinds that can come before the frame header have a length, which counts
itself. The frame header gives the size of the image and its components.

A header is readable if the file starts with the marker for the start of an image, only tables,
comments and application data come before the frame header, and the frame is one that the usual
decoders take: coded by Huffman's method, with one, three or four components whose sampling factors
divide the largest ones.
-/

set_option autoImplicit false

namespace TestPlanner.Screenshot.Jpeg

/-- The kind of the next segment and the bytes after its marker. Bytes before a marker and repeated
bytes 255 are passed over. `opened` tells whether a byte 255 came right before. -/
def marker? (opened : Bool) : List UInt8 → Option (Nat × List UInt8)
  | [] => none
  | b :: s =>
    if b == 0xFF then marker? true s
    else if opened && b != 0 then some (b.toNat, s)
    else marker? false s

/-- The body of a segment and what follows it. -/
def body? : List UInt8 → Option (List UInt8 × List UInt8)
  | a :: b :: s =>
    let length := a.toNat * 256 + b.toNat
    if length < 2 || s.length + 2 < length then none
    else some (s.take (length - 2), s.drop (length - 2))
  | _ => none

/-- Whether a segment holds quantisation tables: for each table a byte with its precision and
number, then 64 numbers that are not zero. -/
def holdsQuantities : (limit : Nat) → List UInt8 → Bool
  | _, [] => true
  | 0, _ => false
  | limit + 1, b :: s =>
    let precision := b.toNat / 16
    let size := 64 * (precision + 1)
    let table := s.take size
    let isZero : Bool :=
      if precision == 0 then table.contains 0
      else (List.range 64).any fun i => table.getD (2 * i) 1 == 0 && table.getD (2 * i + 1) 1 == 0
    precision ≤ 1 && b.toNat % 16 ≤ 3 && table.length == size && !isZero &&
      holdsQuantities limit (s.drop size)

/-- Whether there are enough codes of each length, given how many of each are wanted. `used` are the
codes of a length that start with shorter ones, `available` all codes of it. -/
def areCodes (used available : Nat) : (counts : List Nat) → Bool
  | [] => true
  | n :: counts =>
    (n == 0 || used + n ≤ available) && areCodes (2 * (used + n)) (2 * available) counts

/-- Whether a segment holds code tables: for each table a byte with its class and number, sixteen
counts of codes by length, and as many values as the counts say. -/
def holdsCodes : (limit : Nat) → List UInt8 → Bool
  | _, [] => true
  | 0, _ => false
  | limit + 1, b :: s =>
    let counts := (s.take 16).map UInt8.toNat
    let size := counts.sum
    b.toNat / 16 ≤ 1 && b.toNat % 16 ≤ 3 && 0 < size && size ≤ 256 && 16 + size ≤ s.length &&
      areCodes 0 2 counts &&
      holdsCodes limit (s.drop (16 + size))

/-- A component of a frame: its number, its sampling factors and its quantisation table. -/
structure Component where
  number : Nat
  horizontal : Nat
  vertical : Nat
  table : Nat
  deriving DecidableEq, Repr

/-- The components in the bytes of a frame header. -/
def components : List UInt8 → List Component
  | n :: f :: t :: s => ⟨n.toNat, f.toNat / 16, f.toNat % 16, t.toNat⟩ :: components s
  | _ => []

/-- Whether the sampling factors of components can be brought to one size. -/
def isSampled (width height : Nat) (cs : List Component) : Bool :=
  let maxH := (cs.map Component.horizontal).foldl max 0
  let maxV := (cs.map Component.vertical).foldl max 0
  cs.all fun c =>
    let fullH := c.horizontal == maxH || width == 1
    let fullV := c.vertical == maxV || height == 1
    ((fullH || c.horizontal * 2 == maxH) && (fullV || c.vertical * 2 == maxV)) ||
      (maxH % c.horizontal == 0 && maxV % c.vertical == 0)

/-- Whether the body of a frame header describes an image of a kind that can be decoded. `kind` is
the number of the frame kind. -/
def isFrame (kind : Nat) (body : List UInt8) : Bool :=
  match body with
  | precision :: h1 :: h0 :: w1 :: w0 :: count :: rest =>
    let height := h1.toNat * 256 + h0.toNat
    let width := w1.toNat * 256 + w0.toNat
    let cs := components rest
    let isLossless := kind == 3
    kind ≤ 3 && (precision == 8 || (isLossless && 2 ≤ precision && precision ≤ 16)) &&
      height != 0 && width != 0 &&
      [1, 3, 4].contains count.toNat && rest.length == 3 * count.toNat &&
      (cs.map Component.number).eraseDups.length == cs.length &&
      (cs.all fun c =>
        1 ≤ c.horizontal && c.horizontal ≤ 4 && 1 ≤ c.vertical && c.vertical ≤ 4 &&
          c.table ≤ 3 && (!isLossless || c.table == 0)) &&
      isSampled width height cs
  | _ => false

/-- Whether application data can be made sense of. Only data of the fourteenth kind that starts with
`Adobe` is looked at: it says which of three ways the colours are coded. -/
def isApplicationData (kind : Nat) (body : List UInt8) : Bool :=
  !(kind == 0xEE && 12 ≤ body.length && body.take 6 == "Adobe\x00".toUTF8.toList) ||
    body.getD 11 0 ≤ 2

/-- Whether a readable frame header comes among segments. -/
def reachesFrame : (limit : Nat) → List UInt8 → Bool
  | 0, _ => false
  | limit + 1, bytes =>
    match marker? false bytes with
    | none => false
    | some (kind, s) =>
      match body? s with
      | none => false
      | some (body, rest) =>
        if 0xC0 ≤ kind && kind ≤ 0xCF && kind != 0xC4 && kind != 0xC8 && kind != 0xCC then
          isFrame (kind - 0xC0) body
        else if kind == 0xDB then
          holdsQuantities body.length body && reachesFrame limit rest
        else if kind == 0xC4 then holdsCodes body.length body && reachesFrame limit rest
        else if kind == 0xDD then body.length == 2 && reachesFrame limit rest
        else if 0xE0 ≤ kind && kind ≤ 0xEF then
          isApplicationData kind body && reachesFrame limit rest
        else if kind == 0xFE then reachesFrame limit rest
        else false

/-- Whether bytes start with a readable header. -/
def isReadable (bytes : List UInt8) : Bool :=
  bytes.take 2 == [0xFF, 0xD8] && reachesFrame bytes.length (bytes.drop 2)

end TestPlanner.Screenshot.Jpeg
