/-!
# PNG headers

A PNG file starts with a signature and goes on in chunks: a length, a type of four letters, that
many bytes, and a checksum of type and bytes. The first chunk is the header, `IHDR`; the image data
starts with the first chunk `IDAT` or, in an animation, `fdAT`.

A header is readable if the signature is there, the header chunk describes a possible image, the
chunks before the image data are well formed as far as they matter to the picture, and image data
starts before the file ends. A wrong checksum spoils the file only in chunks that are needed to
decode it, whose types start with an upper-case letter. Chunks without bytes are passed over, and so
are texts and all that only describes the image.

A line of the picture must fit into the memory that a picture may take.
-/

set_option autoImplicit false

namespace TestPlanner.Screenshot.Png

/-- What every PNG file starts with. -/
def signature : List UInt8 := [0x89, 0x50, 0x4E, 0x47, 0x0D, 0x0A, 0x1A, 0x0A]

/-- The number that bytes write, the most significant first. -/
def number (bytes : List UInt8) : Nat :=
  bytes.foldl (fun n b => n * 256 + b.toNat) 0

/-- The remainder of a checksum after one more bit. -/
def checksumBit (c : UInt32) : UInt32 :=
  if c &&& 1 == 1 then (c >>> 1) ^^^ 0xEDB88320 else c >>> 1

/-- The remainder of a checksum after one more byte. -/
def checksumByte (c : UInt32) (b : UInt8) : UInt32 :=
  (List.range 8).foldl (fun c _ => checksumBit c) (c ^^^ b.toUInt32)

/-- The cyclic checksum of bytes. -/
def checksum (bytes : List UInt8) : UInt32 :=
  (bytes.foldl checksumByte 0xFFFFFFFF) ^^^ 0xFFFFFFFF

/-- A chunk: its type and its bytes, and whether its checksum fits. -/
structure Chunk where
  type : List UInt8
  body : List UInt8
  fits : Bool
  deriving DecidableEq, Repr

/-- The type of a chunk. -/
def typeOf (name : String) : List UInt8 := name.toUTF8.toList

/-- Whether a chunk of a type is needed to decode an image. -/
def isCritical (type : List UInt8) : Bool :=
  match type with
  | b :: _ => b &&& 0x20 == 0
  | [] => false

/-- Splits off a chunk. -/
def chunk? (bytes : List UInt8) : Option (Chunk × List UInt8) :=
  let length := number (bytes.take 4)
  let covered := (bytes.drop 4).take (4 + length)
  let rest := bytes.drop (8 + length)
  if bytes.length < 12 + length then none
  else
    some (⟨covered.take 4, covered.drop 4, number (rest.take 4) == (checksum covered).toNat⟩,
      rest.drop 4)

/-- Whether a bit depth and a colour type go together: grey 0, true colour 2, palette 3, and 4 and 6
with transparency. -/
def isColour (depth type : Nat) : Bool :=
  match type with
  | 0 => [1, 2, 4, 8, 16].contains depth
  | 3 => [1, 2, 4, 8].contains depth
  | 2 => depth == 8 || depth == 16
  | 4 => depth == 8 || depth == 16
  | 6 => depth == 8 || depth == 16
  | _ => false

/-- What the header says about an image. -/
structure Header where
  width : Nat
  height : Nat
  depth : Nat
  colour : Nat
  deriving DecidableEq, Repr

/-- The header in the bytes of its chunk, if it describes a possible image. -/
def header? (body : List UInt8) : Option Header :=
  let width := number (body.take 4)
  let height := number ((body.drop 4).take 4)
  match (body.drop 8).map UInt8.toNat with
  | depth :: colour :: compression :: filter :: interlace :: _ =>
    if width != 0 && height != 0 && isColour depth colour && compression == 0 && filter == 0 &&
        interlace ≤ 1 then
      some ⟨width, height, depth, colour⟩
    else none
  | _ => none

/-- What is known of a file before its image data. -/
structure Prelude where
  header : Header
  /-- the types of the chunks so far -/
  seen : List (List UInt8)
  /-- the number of frame controls so far -/
  frames : Nat
  /-- the bytes of palette and transparency -/
  held : Nat
  deriving Repr

namespace Prelude

/-- Whether a chunk of a type was seen. -/
def has (p : Prelude) (name : String) : Bool := p.seen.contains (typeOf name)

/-- The chunks that may stand only once. -/
def single : List String := ["IHDR", "PLTE", "tRNS", "pHYs", "gAMA", "cHRM", "sRGB"]

/-- Whether the bytes of a transparency fit the colours of the image. -/
def isTransparency (p : Prelude) (body : List UInt8) : Bool :=
  match p.header.colour with
  | 0 => 2 ≤ body.length
  | 2 => 6 ≤ body.length
  | 3 => p.has "PLTE"
  | _ => false

/-- Whether the bytes of a frame control describe the whole image as the next frame. -/
def isFrame (p : Prelude) (body : List UInt8) : Bool :=
  let field (i : Nat) : Nat := number ((body.drop (4 * i)).take 4)
  26 ≤ body.length && field 0 == p.frames && field 1 == p.header.width &&
    field 2 == p.header.height && field 3 == 0 && field 4 == 0 && body.getD 24 9 ≤ 2 &&
    body.getD 25 9 ≤ 1

/-- Whether the bytes of a chunk of a type can stand where they do. -/
def accepts (p : Prelude) (type body : List UInt8) : Bool :=
  !(single.any fun name => type == typeOf name && p.has name) &&
    if type == typeOf "tRNS" then p.isTransparency body
    else if type == typeOf "pHYs" then 9 ≤ body.length && body.getD 8 9 ≤ 1
    else if type == typeOf "gAMA" then 4 ≤ body.length
    else if type == typeOf "cHRM" then 32 ≤ body.length
    else if type == typeOf "sRGB" then body.getD 0 9 ≤ 3
    else if type == typeOf "acTL" then 8 ≤ body.length
    else if type == typeOf "fcTL" then p.isFrame body
    else true

/-- What is known after a chunk that is accepted. -/
def after (p : Prelude) (c : Chunk) : Prelude :=
  let holds := c.type == typeOf "PLTE" || c.type == typeOf "tRNS"
  { p with
    seen := c.type :: p.seen
    frames := if c.type == typeOf "fcTL" then p.frames + 1 else p.frames
    held := if holds then p.held + c.body.length else p.held }

/-- What is known after a chunk, if it can stand where it does. -/
def add? (p : Prelude) (c : Chunk) : Option Prelude :=
  if !c.fits && isCritical c.type then none
  else if c.body.isEmpty then some p
  else if p.accepts c.type c.body then some (p.after c)
  else none

/-- The bytes of one line of the decoded picture: grey or three colours, perhaps with transparency,
each in one byte or in two. -/
def lineSize (p : Prelude) : Nat :=
  let samples := match p.header.colour with
    | 0 => if p.has "tRNS" then 2 else 1
    | 4 => 2
    | 6 => 4
    | _ => if p.has "tRNS" then 4 else 3
  p.header.width * samples * (if p.header.depth == 16 then 2 else 1)

/-- The bytes that a picture may take in memory. -/
def memory : Nat := 512 * 1024 * 1024

/-- Whether image data starts among chunks, and a line of it fits into memory. -/
def reachesData : (limit : Nat) → Prelude → List UInt8 → Bool
  | 0, _, _ => false
  | limit + 1, p, bytes =>
    let type := (bytes.drop 4).take 4
    let fits := p.held + p.lineSize ≤ memory
    if type == typeOf "IDAT" then fits
    else if type == typeOf "fdAT" then p.frames != 0 && 4 ≤ number (bytes.take 4) && fits
    else if type == typeOf "IEND" then false
    else match chunk? bytes with
      | some (c, rest) =>
        match p.add? c with
        | some p => reachesData limit p rest
        | none => false
      | none => false

end Prelude

/-- Whether chunks start with a header and reach image data. -/
def isImage : (limit : Nat) → List UInt8 → Bool
  | 0, _ => false
  | limit + 1, bytes =>
    match chunk? bytes with
    | some (c, rest) =>
      c.type == typeOf "IHDR" && c.fits &&
        if c.body.isEmpty then isImage limit rest
        else match header? c.body with
          | some h => Prelude.reachesData limit ⟨h, [c.type], 0, 0⟩ rest
          | none => false
    | none => false

/-- Whether bytes start with a readable header. -/
def isReadable (bytes : List UInt8) : Bool :=
  bytes.take 8 == signature && isImage bytes.length (bytes.drop 8)

end TestPlanner.Screenshot.Png
