import SlideDeck.Image.Checksum
import SlideDeck.Image.Format
import SlideDeck.Image.Raster

/-! # PNG images

A PNG file is a signature and a list of chunks: a header, other chunks, a run of data
chunks, and what follows, which is not read. The pixels stand in the data chunks as a
compressed stream of filtered rows. Read are images of eight bits a sample that are not
interlaced and whose stream holds stored blocks only.
-/

namespace SlideDeck.Png

/-- The number of bytes in network order. -/
def bigEndian (bytes : List UInt8) : Nat := bytes.foldl (fun n b => 256 * n + b.toNat) 0

/-! ## Chunks -/

/-- One chunk of a file. -/
structure Chunk where
  name : List UInt8
  data : List UInt8
  /-- The check value is the one of the name and the data. -/
  sound : Bool

/-- The name of the header chunk. -/
def headerName : List UInt8 := [0x49, 0x48, 0x44, 0x52]

/-- The name of a palette. -/
def paletteName : List UInt8 := [0x50, 0x4C, 0x54, 0x45]

/-- The name of the chunk with the sample values that are transparent. -/
def transparencyName : List UInt8 := [0x74, 0x52, 0x4E, 0x53]

/-- The name of the data chunks. -/
def dataName : List UInt8 := [0x49, 0x44, 0x41, 0x54]

/-- The name of the data chunks of later frames. -/
def frameDataName : List UInt8 := [0x66, 0x64, 0x41, 0x54]

/-- The name of the chunk ahead; none if not even that is there. -/
def nameAhead? (bytes : List UInt8) : Option (List UInt8) :=
  if 8 ≤ bytes.length then some ((bytes.drop 4).take 4) else none

/-- Reads one chunk; the rest of the bytes is shorter. -/
def nextChunk? (bytes : List UInt8) :
    Option (Chunk × { rest : List UInt8 // rest.length < bytes.length }) :=
  let size := bigEndian (bytes.take 4)
  let body := (bytes.drop 4).take (size + 4)
  let check := bigEndian ((bytes.drop (size + 8)).take 4)
  if h : size + 12 ≤ bytes.length then
    some (⟨body.take 4, body.drop 4, check == (Checksum.crc32 body).toNat⟩,
      ⟨bytes.drop (size + 12), by simp only [List.length_drop]; omega⟩)
  else none

/-- A chunk that can be passed over, by the case of the first letter of its name. -/
def Chunk.isAncillary (c : Chunk) : Bool := c.name.headD 0 &&& 0x20 != 0

/-! ## The header -/

/-- What the pixels of an image are made of. -/
inductive ColorType
  | gray
  | rgb
  | grayAlpha
  | rgba
deriving DecidableEq, Repr

/-- The color type of a number. -/
def ColorType.ofNumber? : UInt8 → Option ColorType
  | 0 => some .gray
  | 2 => some .rgb
  | 4 => some .grayAlpha
  | 6 => some .rgba
  | _ => none

/-- The number of samples in a pixel. -/
def ColorType.samples : ColorType → Nat
  | .gray => 1
  | .rgb => 3
  | .grayAlpha => 2
  | .rgba => 4

/-- The size of an image and what its pixels are made of. -/
structure Header where
  width : Nat
  height : Nat
  color : ColorType

/-- Reads the data of a header chunk, which may go on behind the header. -/
def Header.ofData? (data : List UInt8) : Option Header :=
  match data.drop 8 with
  | 8 :: color :: 0 :: 0 :: 0 :: _ => do
    let color ← ColorType.ofNumber? color
    let width := bigEndian (data.take 4)
    let height := bigEndian ((data.drop 4).take 4)
    if width = 0 ∨ height = 0 then none else return ⟨width, height, color⟩
  | _ => none

/-- What is known of an image in front of its data. -/
structure Preface where
  hasPalette : Bool := false
  /-- The samples of the pixels that are transparent. -/
  transparent : Option (List UInt8) := none

/-- The samples of transparent pixels, which the data of their chunk gives in two bytes
each. Images with opacities have none. -/
def transparentSamples? (color : ColorType) (data : List UInt8) : Option (List UInt8) :=
  match color, data with
  | .gray, _ :: v :: _ => some [v]
  | .rgb, _ :: r :: _ :: g :: _ :: b :: _ => some [r, g, b]
  | _, _ => none

/-- What a chunk between the header and the data adds. Chunks that can be passed over may
be damaged; of the others there is one palette at most and nothing else. -/
def Preface.add? (color : ColorType) (p : Preface) (c : Chunk) : Option Preface :=
  if c.name == frameDataName then none
  else if c.isAncillary then
    if c.name == transparencyName && c.sound && p.transparent.isNone then
      some { p with transparent := transparentSamples? color c.data }
    else some p
  else if c.name == paletteName && c.sound && !p.hasPalette then
    some { p with hasPalette := true }
  else none

/-- Reads the chunks in front of the first data chunk. -/
def readPreface? (color : ColorType) (p : Preface) (bytes : List UInt8) :
    Option (Preface × List UInt8) :=
  match nameAhead? bytes, nextChunk? bytes with
  | none, _ => none
  | some name, next =>
    if name == dataName then some (p, bytes)
    else
      match next with
      | none => none
      | some (chunk, rest) =>
        match p.add? color chunk with
        | none => none
        | some p => readPreface? color p rest.val
termination_by bytes.length
decreasing_by exact rest.property

/-- The contents of the data chunks ahead. The chunk behind them has to begin. -/
def dataAhead? (bytes : List UInt8) : Option (List UInt8) :=
  match nameAhead? bytes, nextChunk? bytes with
  | none, _ => none
  | some name, next =>
    if name != dataName then some []
    else
      match next with
      | none => none
      | some (chunk, rest) =>
        if chunk.sound then (dataAhead? rest.val).map (chunk.data ++ ·) else none
termination_by bytes.length
decreasing_by exact rest.property

/-! ## The stream -/

/-- The number of two bytes, the low one first. -/
def littleEndian (low high : UInt8) : Nat := low.toNat + 256 * high.toNat

/-- The contents of the stored blocks up to the last one, behind which the four bytes of
a check value have to be there. Of the first byte of a block, three bits count: the last
block has the lowest one set, and stored blocks have no other. -/
def storedBlocks? (bytes : List UInt8) : Option (List UInt8) :=
  match bytes with
  | kind :: a :: b :: c :: d :: rest =>
    let size := littleEndian a b
    if size + littleEndian c d = 0xFFFF ∧ size ≤ rest.length then
      match kind.toNat % 8 with
      | 0 => (storedBlocks? (rest.drop size)).map (rest.take size ++ ·)
      | 1 => if size + 4 ≤ rest.length then some (rest.take size) else none
      | _ => none
    else none
  | _ => none
termination_by bytes.length
decreasing_by simp only [List.length_drop, List.length_cons]; omega

/-- The contents of a compressed stream without a preset dictionary. -/
def inflate? : List UInt8 → Option (List UInt8)
  | method :: flags :: blocks =>
    if method.toNat % 16 = 8 ∧ method.toNat / 16 ≤ 7 ∧
        (256 * method.toNat + flags.toNat) % 31 = 0 ∧ flags.toNat / 32 % 2 = 0 then
      storedBlocks? blocks
    else none
  | _ => none

/-! ## Rows -/

/-- Of the bytes to the left, above and to the upper left, the one nearest to what
they predict together; of two equally near ones the first. -/
def nearestNeighbour (left above corner : UInt8) : UInt8 :=
  let predicted : Int := (left.toNat : Int) + above.toNat - corner.toNat
  let distance (b : UInt8) : Nat := (predicted - b.toNat).natAbs
  if distance left ≤ distance above ∧ distance left ≤ distance corner then left
  else if distance above ≤ distance corner then above
  else corner

/-- What a filter adds to a byte, from the bytes to the left, above and to the upper
left. -/
def prediction? (filter : UInt8) : Option (UInt8 → UInt8 → UInt8 → UInt8) :=
  match filter with
  | 0 => some fun _ _ _ => 0
  | 1 => some fun left _ _ => left
  | 2 => some fun _ above _ => above
  | 3 => some fun left above _ => UInt8.ofNat ((left.toNat + above.toNat) / 2)
  | 4 => some nearestNeighbour
  | _ => none

/-- Undoes the filter of a row. The bytes of the previous pixel and of the one above
it are at hand, the row above starts at the byte above. -/
def unfilterRow (predict : UInt8 → UInt8 → UInt8 → UInt8) :
    (row above left corner : List UInt8) → List UInt8
  | [], _, _, _ => []
  | b :: row, above, left, corner =>
    let up := above.headD 0
    let value := b + predict (left.headD 0) up (corner.headD 0)
    value :: unfilterRow predict row above.tail (left.tail ++ [value]) (corner.tail ++ [up])

/-- The rows of a stream with their filters undone. -/
def rows? (pixelSize rowSize : Nat) :
    (count : Nat) → (above stream : List UInt8) → Option (List (List UInt8))
  | 0, _, _ => some []
  | count + 1, above, stream =>
    match stream with
    | [] => none
    | filter :: stream =>
      if stream.length < rowSize then none
      else do
        let predict ← prediction? filter
        let edge := List.replicate pixelSize (0 : UInt8)
        let row := unfilterRow predict (stream.take rowSize) above edge edge
        let rest ← rows? pixelSize rowSize count row (stream.drop rowSize)
        return row :: rest

/-- The opacity of a pixel with some samples. -/
def opacity (transparent : Option (List UInt8)) (samples : List UInt8) : UInt8 :=
  if transparent == some samples then 0 else 255

/-- The pixels of a row. A pixel without an opacity is opaque, unless its samples are
transparent. -/
def rowPixels (transparent : Option (List UInt8)) : ColorType → List UInt8 → List Pixel
  | .gray, v :: row => ⟨v, v, v, opacity transparent [v]⟩ :: rowPixels transparent .gray row
  | .grayAlpha, v :: a :: row => ⟨v, v, v, a⟩ :: rowPixels transparent .grayAlpha row
  | .rgb, r :: g :: b :: row =>
    ⟨r, g, b, opacity transparent [r, g, b]⟩ :: rowPixels transparent .rgb row
  | .rgba, r :: g :: b :: a :: row => ⟨r, g, b, a⟩ :: rowPixels transparent .rgba row
  | _, _ => []

/-- Decodes a PNG file, if it is of the kind that is read here. -/
def decode? (file : List UInt8) : Option Raster :=
  if ImageFormat.startsWith file ImageFormat.pngSignature then do
    let (first, rest) ← nextChunk? (file.drop 8)
    if first.name == headerName && first.sound then
      let header ← Header.ofData? first.data
      let (preface, rest) ← readPreface? header.color {} rest.val
      let stream ← inflate? (← dataAhead? rest)
      let pixelSize := header.color.samples
      let rows ← rows? pixelSize (header.width * pixelSize) header.height [] stream
      return ⟨header.width, header.height,
        rows.flatMap (rowPixels preface.transparent header.color)⟩
    else none
  else none

end SlideDeck.Png
