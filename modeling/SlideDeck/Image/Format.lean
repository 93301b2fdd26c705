/-! # Image formats

The format of an image file shows in its first bytes. A signature is a list of bytes
to be matched in order, some of which may be anything.
-/

namespace SlideDeck

/-- The image formats that are recognised. -/
inductive ImageFormat
  | png
  | jpeg
  | gif
  | webp
  | tiff
  | dds
  | bmp
  | ico
  | radiance
  | avif
  | openExr
  | qoi
  | netpbm
  | farbfeld
deriving DecidableEq, Repr

namespace ImageFormat

/-- The bytes that an image starts with; `none` stands for any byte. -/
abbrev Signature := List (Option UInt8)

/-- A signature of ASCII characters. -/
def ascii (text : String) : Signature := text.toList.map fun c => some (UInt8.ofNat c.toNat)

/-- The signature of the given bytes. -/
def bytes (values : List UInt8) : Signature := values.map some

/-- Any bytes, as many as given. -/
def gap (count : Nat) : Signature := List.replicate count none

/-- A file starts with a signature. -/
def startsWith : (file : List UInt8) → Signature → Bool
  | _, [] => true
  | [], _ :: _ => false
  | b :: file, s :: signature => s.all (· == b) && startsWith file signature

/-- The signature of a PNG file. -/
def pngSignature : Signature := bytes [0x89, 0x50, 0x4E, 0x47, 0x0D, 0x0A, 0x1A, 0x0A]

/-- All signatures with their formats. -/
def signatures : List (Signature × ImageFormat) := [
  (pngSignature, .png),
  (bytes [0xFF, 0xD8, 0xFF], .jpeg),
  (ascii "GIF89a", .gif),
  (ascii "GIF87a", .gif),
  (ascii "RIFF" ++ gap 4 ++ ascii "WEBP", .webp),
  (bytes [0x4D, 0x4D, 0x00, 0x2A], .tiff),
  (bytes [0x49, 0x49, 0x2A, 0x00], .tiff),
  (ascii "DDS ", .dds),
  (ascii "BM", .bmp),
  (bytes [0x00, 0x00, 0x01, 0x00], .ico),
  (ascii "#?RADIANCE", .radiance),
  (bytes [0x00, 0x00] ++ gap 2 ++ ascii "ftypavif", .avif),
  (bytes [0x76, 0x2F, 0x31, 0x01], .openExr),
  (ascii "qoif", .qoi),
  (ascii "P1", .netpbm),
  (ascii "P2", .netpbm),
  (ascii "P3", .netpbm),
  (ascii "P4", .netpbm),
  (ascii "P5", .netpbm),
  (ascii "P6", .netpbm),
  (ascii "P7", .netpbm),
  (ascii "farbfeld", .farbfeld)]

/-- The format whose signature a file starts with. -/
def ofFile? (file : List UInt8) : Option ImageFormat :=
  (signatures.find? fun s => startsWith file s.1).map Prod.snd

end ImageFormat

end SlideDeck
