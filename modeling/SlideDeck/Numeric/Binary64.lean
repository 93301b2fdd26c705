import SlideDeck.Numeric.Binary

/-! # Double-precision numbers

The finite values of `Float` seen as a sign and a magnitude, and the operations
whose results are fixed by exact arithmetic on that view: rounding a quotient,
floor and ceiling, and the remainder of a truncating division.
-/

namespace SlideDeck.Binary64

/-- The sign bit; it is set for negative zero too. -/
def isNegative (x : Float) : Bool := x.toBits >>> 63 == 1

/-- The number of significands that share an exponent, `2 ^ 52`. -/
abbrev binade : Nat := 0x10000000000000

/-- The absolute value of a finite number. -/
def magnitude (x : Float) : Magnitude :=
  let bits := x.toBits.toNat
  let fraction := bits % binade
  let field : Nat := bits / binade % 2048
  if field = 0 then ⟨fraction, BinaryFormat.double.minExponent⟩
  else ⟨binade + fraction, (field : Int) - 1075⟩

/-- The infinity of a sign. -/
def infinity (negative : Bool) : Float :=
  Float.ofBits (if negative then 0xFFF0000000000000 else 0x7FF0000000000000)

/-- The number of a sign and a magnitude of the format. -/
def ofMagnitude (negative : Bool) (m : Magnitude) : Float :=
  let field : Nat := if m.significand < binade then 0 else (m.exponent + 1075).toNat
  let word := field * binade + m.significand % binade
  Float.ofBits (UInt64.ofNat (if negative then 0x8000000000000000 + word else word))

/-- The double nearest to a signed quotient; too great a quotient gives an infinity. -/
def ofRatio (negative : Bool) (num den : Nat) : Float :=
  match BinaryFormat.double.round num den with
  | some m => ofMagnitude negative m
  | none => infinity negative

/-- The double nearest to a natural number. -/
def ofNat (n : Nat) : Float := ofRatio false n 1

/-- The double nearest to an integer. -/
def ofInt (n : Int) : Float := ofRatio (decide (n < 0)) n.natAbs 1

/-- The double nearest to `± coefficient * 10 ^ exponent`. -/
def ofDecimal (negative : Bool) (coefficient : Nat) (exponent : Int) : Float :=
  if 0 ≤ exponent then ofRatio negative (coefficient * Nat.pow 10 exponent.toNat) 1
  else ofRatio negative coefficient (Nat.pow 10 (-exponent).toNat)

/-- A finite number without a fraction. -/
def isWhole (x : Float) : Bool := (magnitude x).isWhole

/-- The greatest whole number not above a finite number. A number that is whole
already is its own floor, so the sign of a zero stays. -/
def floor (x : Float) : Float :=
  if isWhole x then x
  else
    let whole := (magnitude x).whole
    if isNegative x then ofRatio true (whole + 1) 1 else ofRatio false whole 1

/-- The least whole number not below a finite number. -/
def ceil (x : Float) : Float := -(floor (-x))

/-- The nearest whole number; a half goes away from zero. -/
def roundHalfAway (x : Float) : Float :=
  if isWhole x then x
  else
    let ratio := (magnitude x).ratio
    ofRatio (isNegative x) ((2 * ratio.1 + ratio.2) / (2 * ratio.2)) 1

/-- The remainder of the division that truncates toward zero; it is exact and has
the sign of the dividend. The divisor is finite and not zero. -/
def remainder (x y : Float) : Float :=
  let a := magnitude x
  let b := magnitude y
  let e := min a.exponent b.exponent
  let rest := (a.significand <<< (a.exponent - e).toNat) %
    (b.significand <<< (b.exponent - e).toNat)
  let exact : Magnitude := ⟨rest, e⟩
  ofRatio (isNegative x) exact.ratio.1 exact.ratio.2

/-- The smaller of two numbers that are no NaN; of two zeros the second one. -/
def least (x y : Float) : Float := if x < y then x else y

/-- The greater of two numbers that are no NaN; of two zeros the second one. -/
def greatest (x y : Float) : Float := if y < x then x else y

/-- The natural number that a finite number reaches when truncated; zero for a
negative one. -/
def toNat (x : Float) : Nat := if isNegative x then 0 else (magnitude x).whole

/-- The integer that a finite number reaches when truncated. -/
def toInt (x : Float) : Int :=
  if isNegative x then -((magnitude x).whole : Int) else (magnitude x).whole

/-- The nearest single-precision magnitude of a finite number, `none` when it
overflows. -/
def toSingle (x : Float) : Option Magnitude :=
  let ratio := (magnitude x).ratio
  BinaryFormat.single.round ratio.1 ratio.2

end SlideDeck.Binary64
