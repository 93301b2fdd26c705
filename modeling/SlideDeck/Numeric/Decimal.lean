import SlideDeck.Numeric.Binary64

/-! # Decimal text of binary numbers

A binary number is written with the fewest decimal digits that read back to it,
and of those the nearest. `Decimal.shortest` finds the digits in exact
arithmetic from the interval of reals that round to the number; `positional` and
`scientific` lay them out.
-/

namespace SlideDeck

/-- A nonnegative decimal number, `coefficient * 10 ^ exponent`. -/
structure Decimal where
  coefficient : Nat
  exponent : Int
deriving DecidableEq, Repr

namespace Decimal

/-- Which way a number goes that lies exactly between two shortest decimals. -/
inductive Tie
  | toEven
  | upward
deriving DecidableEq, Repr

/-- The reals that round to a magnitude of a format, in quarter units of its last
place: the lower neighbour of a power of two is only half as far away. -/
def halfGaps (f : BinaryFormat) (m : Magnitude) : Nat × Nat :=
  if m.significand = 1 <<< (f.precision - 1) ∧ f.minExponent < m.exponent then
    (4 * m.significand - 1, 4 * m.significand + 2)
  else (4 * m.significand - 2, 4 * m.significand + 2)

/-- `c * 10 ^ k` lies in the interval of a magnitude; the ends belong to it when
the significand is even. -/
def readsBack (f : BinaryFormat) (m : Magnitude) (c : Nat) (k : Int) : Bool :=
  let (low, high) := halfGaps f m
  -- both sides of `c * 10 ^ k ≤ q * 2 ^ (e - 2)` as natural numbers
  let e := m.exponent - 2
  let left := (if 0 ≤ k then c * Nat.pow 10 k.toNat else c) <<< (-e).toNat
  let unit := (if 0 ≤ k then 1 else Nat.pow 10 (-k).toNat) <<< e.toNat
  if m.significand % 2 = 0 then low * unit ≤ left && left ≤ high * unit
  else low * unit < left && left < high * unit

/-- The number of digits before the decimal point: the least `d` with
`num / den < 10 ^ d`, starting from an estimate that is never too great. -/
def pointPosition (num den : Nat) : Int :=
  let bits : Int := (num.log2 : Int) - den.log2 - 1
  let estimate : Int := bits * 30103 / 100000
  let reaches (d : Int) : Bool :=
    if 0 ≤ d then decide (den * Nat.pow 10 d.toNat ≤ num)
    else decide (den ≤ num * Nat.pow 10 (-d).toNat)
  if reaches (estimate + 1) then estimate + 2
  else if reaches estimate then estimate + 1
  else estimate

/-- The better of the two neighbours of a magnitude on the grid of `n` significant
digits, if one of them reads back. -/
def onGrid (f : BinaryFormat) (tie : Tie) (m : Magnitude) (point : Int) (n : Nat) :
    Option Decimal :=
  let k := point - n
  let (num, den) := m.ratio
  let (num, den) :=
    if 0 ≤ k then (num, den * Nat.pow 10 k.toNat) else (num * Nat.pow 10 (-k).toNat, den)
  let low := num / den
  let twice := 2 * (num % den)
  match readsBack f m low k, readsBack f m (low + 1) k with
  | false, false => none
  | true, false => some ⟨low, k⟩
  | false, true => some ⟨low + 1, k⟩
  | true, true =>
    let up : Bool :=
      if twice = den then
        match tie with
        | .toEven => low % 2 == 1
        | .upward => true
      else den < twice
    some ⟨if up then low + 1 else low, k⟩

/-- The first grid with a hit, from `n` digits on and for at most `count` grids. -/
def firstGrid (f : BinaryFormat) (tie : Tie) (m : Magnitude) (point : Int) :
    (count n : Nat) → Decimal
  | 0, _ => ⟨m.ratio.1, 0⟩
  | count + 1, n => (onGrid f tie m point n).getD (firstGrid f tie m point count (n + 1))

/-- The decimal with the fewest digits that reads back to a magnitude, and the
nearest of those. Seventeen digits always suffice for the formats in use. -/
def shortest (f : BinaryFormat) (tie : Tie) (m : Magnitude) : Decimal :=
  if m.significand = 0 then ⟨0, 0⟩
  else
    let found := firstGrid f tie m (pointPosition m.ratio.1 m.ratio.2) 17 1
    -- the upper neighbour of the one-digit grid may be a power of ten
    if found.coefficient = 10 then ⟨1, found.exponent + 1⟩ else found

/-- The digits of the coefficient, most significant first. -/
def digits (d : Decimal) : List Char := Nat.toDigits 10 d.coefficient

/-- Plain notation without an exponent. A whole number has no point. -/
def positional (d : Decimal) : List Char :=
  let ds := d.digits
  if 0 ≤ d.exponent then
    if d.coefficient = 0 then ['0'] else ds ++ List.replicate d.exponent.toNat '0'
  else
    let places := (-d.exponent).toNat
    if places < ds.length then
      ds.take (ds.length - places) ++ '.' :: ds.drop (ds.length - places)
    else '0' :: '.' :: (List.replicate (places - ds.length) '0' ++ ds)

/-- The power of ten of the first digit. -/
def leadingExponent (d : Decimal) : Int := d.exponent + (d.digits.length - 1 : Nat)

/-- One digit before the point and a signed exponent: `1e-6`, `1.5e+300`. -/
def scientific (d : Decimal) : List Char :=
  let mantissa :=
    match d.digits with
    | [] => []
    | [c] => [c]
    | c :: rest => c :: '.' :: rest
  let e := d.leadingExponent
  mantissa ++ 'e' :: (if e < 0 then '-' else '+') :: Nat.toDigits 10 e.natAbs

end Decimal

namespace Binary64

/-- A sign in front of the text of a magnitude. -/
def signed (negative : Bool) (text : List Char) : String :=
  String.ofList (if negative then '-' :: text else text)

/-- The shortest plain decimal of a finite number, never with an exponent and
without a fraction where there is none. -/
def toPlainText (x : Float) : String :=
  signed (isNegative x)
    (Decimal.shortest BinaryFormat.double .upward (magnitude x)).positional

/-- The shortest plain decimal of the single-precision neighbour of a number. What
lies beyond single precision is written as infinity. -/
def toSingleText (x : Float) : String :=
  if x.isNaN then "NaN"
  else
    signed (isNegative x) <|
      match toSingle x with
      | some m => (Decimal.shortest BinaryFormat.single .upward m).positional
      | none => ['i', 'n', 'f']

end Binary64

end SlideDeck
