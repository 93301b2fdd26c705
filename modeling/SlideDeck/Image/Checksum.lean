/-! # Cyclic redundancy checks

The check value of a chunk is the remainder of its bits, seen as a polynomial with
coefficients modulo two, in the reflected form with the polynomial `0xEDB88320`.
-/

namespace SlideDeck.Checksum

/-- Eight steps of the division, one for every bit of a byte. -/
def byteSteps : (count : Nat) → UInt32 → UInt32
  | 0, c => c
  | count + 1, c =>
    byteSteps count (if c &&& 1 == 1 then (c >>> 1) ^^^ 0xEDB88320 else c >>> 1)

/-- The check value of a list of bytes. -/
def crc32 (bytes : List UInt8) : UInt32 :=
  (bytes.foldl (fun c b => byteSteps 8 (c ^^^ b.toUInt32)) 0xFFFFFFFF) ^^^ 0xFFFFFFFF

end SlideDeck.Checksum
