import SlideDeck.Digest.Sha256
import SlideDeck.Json.Printer

/-! # Content keys

Render keys and manifest hashes are digests of canonical JSON text. The parts of a
render key are written one after another with their lengths in front, so that no
two different lists of parts give one stream of bytes.
-/

namespace SlideDeck

/-- The bytes of a text in UTF-8. -/
def utf8Bytes (s : String) : List UInt8 := s.toUTF8.toList

/-- A part of a stream: its length as eight bytes, and its bytes. -/
def segment (bytes : List UInt8) : List UInt8 :=
  Sha256.bigEndian 8 bytes.length ++ bytes

/-- The hash that names a JSON value up to the order of members. -/
def manifestHash (value : Json) : String := Sha256.hex (utf8Bytes value.canonical)

/-- The stream of bytes that a render key is the digest of. -/
def renderKeyStream (program data theme : Json) (engine : String) : List UInt8 :=
  segment (utf8Bytes program.canonical) ++ segment (utf8Bytes data.canonical) ++
    segment (utf8Bytes theme.canonical) ++ segment (utf8Bytes engine)

/-- The key of one render: program, data, theme and engine version. -/
def renderKey (program data theme : Json) (engine : String) : String :=
  Sha256.hex (renderKeyStream program data theme engine)

end SlideDeck
