/-! # Binary floating-point formats

A finite binary number is a significand times a power of two. Rounding an exact
quotient of natural numbers to such a format is the one operation from which
reading decimals, narrowing to fewer bits and exact remainders are built: the
nearest representable value, and of two equally near ones the even significand.
-/

namespace SlideDeck

/-- A nonnegative binary number, `significand * 2 ^ exponent`. -/
structure Magnitude where
  significand : Nat
  exponent : Int
deriving DecidableEq, Repr

namespace Magnitude

/-- The magnitude as an exact quotient of natural numbers. -/
def ratio (m : Magnitude) : Nat × Nat :=
  if 0 ≤ m.exponent then (m.significand <<< m.exponent.toNat, 1)
  else (m.significand, 1 <<< (-m.exponent).toNat)

/-- The greatest natural number not above the magnitude. -/
def whole (m : Magnitude) : Nat := m.ratio.1 / m.ratio.2

/-- The magnitude has no fraction. -/
def isWhole (m : Magnitude) : Bool := m.ratio.1 % m.ratio.2 == 0

end Magnitude

/-- The nearest natural number to a quotient; a half goes to the even neighbour. -/
def roundHalfEven (num den : Nat) : Nat :=
  let low := num / den
  let twice := 2 * (num % den)
  if twice < den then low
  else if den < twice then low + 1
  else low + low % 2

/-- A binary format by its number of significant bits and the least and the
greatest exponent that the unit in the last place can have. -/
structure BinaryFormat where
  precision : Nat
  minExponent : Int
  maxExponent : Int
deriving DecidableEq, Repr

namespace BinaryFormat

/-- Double precision: 53 significant bits. -/
def double : BinaryFormat := ⟨53, -1074, 971⟩

/-- Single precision: 24 significant bits. -/
def single : BinaryFormat := ⟨24, -149, 104⟩

/-- `num / den` divided by `2 ^ e`, again as a quotient. -/
def scale (num den : Nat) (e : Int) : Nat × Nat :=
  if 0 ≤ e then (num, den <<< e.toNat) else (num <<< (-e).toNat, den)

/-- The exponent of the unit in the last place at which a positive quotient is
rounded: as fine as the precision allows, but never below the least one. -/
def unitExponent (f : BinaryFormat) (num den : Nat) : Int :=
  let guess : Int := (num.log2 : Int) - den.log2 - f.precision + 1
  let scaled := scale num den guess
  let exact := if scaled.1 / scaled.2 < 1 <<< (f.precision - 1) then guess - 1 else guess
  max exact f.minExponent

/-- The nearest value of the format to a quotient, `none` above the greatest one. -/
def round (f : BinaryFormat) (num den : Nat) : Option Magnitude :=
  if num = 0 then some ⟨0, f.minExponent⟩
  else
    let e := f.unitExponent num den
    let scaled := scale num den e
    let s := roundHalfEven scaled.1 scaled.2
    let rounded : Magnitude :=
      if s = 1 <<< f.precision then ⟨1 <<< (f.precision - 1), e + 1⟩ else ⟨s, e⟩
    if f.maxExponent < rounded.exponent then none else some rounded

end BinaryFormat

end SlideDeck
