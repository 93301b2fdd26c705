import SlideDeck.Numeric.Decimal

/-! # JSON numbers

A JSON number is an integer or a finite double. A literal without fraction and
exponent is an integer when it fits 64 bits, signed or unsigned; the two kinds stay
different values even where they are equal in size, and negative zero is a double.
-/

namespace SlideDeck.Json

/-- An integer of 64 bits, signed or unsigned, or a finite double. -/
inductive Number
  | integer (value : Int) (fits : -0x8000000000000000 ≤ value ∧ value < 0x10000000000000000)
  | double (value : Float) (finite : value.isFinite = true)

namespace Number

/-- The number of a count. Counts above the widest integer stop there. -/
def ofNat (n : Nat) : Number :=
  if h : n < 0x10000000000000000 then .integer n ⟨by omega, by omega⟩
  else .integer 0xFFFFFFFFFFFFFFFF ⟨by omega, by omega⟩

/-- The number of a double, none for an infinity or a NaN. -/
def ofFloat? (x : Float) : Option Number :=
  if h : x.isFinite = true then some (.double x h) else none

/-- The double nearest to a number. -/
def toFloat : Number → Float
  | .integer n _ => Binary64.ofInt n
  | .double x _ => x

/-- The natural number that an integer is, none for a double and below zero. -/
def toNat? : Number → Option Nat
  | .integer (.ofNat n) _ => some n
  | _ => none

/-- Two numbers of one kind that are equal in size; the zeros of doubles are equal. -/
def agrees : Number → Number → Bool
  | .integer a _, .integer b _ => a == b
  | .double x _, .double y _ => x == y
  | _, _ => false

instance : DecidableEq Number
  | .integer a _, .integer b _ =>
    if h : a = b then .isTrue (by subst h; rfl) else .isFalse fun e => h (by injection e)
  | .double x _, .double y _ =>
    if h : x.toBits = y.toBits then
      .isTrue (by
        obtain ⟨⟨_, _⟩⟩ := x
        obtain ⟨⟨_, _⟩⟩ := y
        have h : _ = _ := h
        subst h
        rfl)
    else .isFalse fun e => h (by injection e with e; rw [e])
  | .integer _ _, .double _ _ => .isFalse (by simp)
  | .double _ _, .integer _ _ => .isFalse (by simp)

/-- Doubles have the fewest digits that read back, nearest first and a tie to the
even digit. -/
def shortest (x : Float) : Decimal :=
  Decimal.shortest BinaryFormat.double .toEven (Binary64.magnitude x)

/-- Doubles from `1e-5` up to `1e16` are written plainly and keep a fraction, all
others with an exponent. -/
def renderDouble (x : Float) : List Char :=
  let d := shortest x
  let text :=
    if d.coefficient = 0 then ['0', '.', '0']
    else if -5 ≤ d.leadingExponent ∧ d.leadingExponent < 16 then
      if 0 ≤ d.exponent then d.positional ++ ['.', '0'] else d.positional
    else d.scientific
  if Binary64.isNegative x then '-' :: text else text

/-- The text of an integer. -/
def renderInteger (n : Int) : List Char :=
  if n < 0 then '-' :: Nat.toDigits 10 n.natAbs else Nat.toDigits 10 n.natAbs

/-- The text of a number. -/
def render : Number → List Char
  | .integer n _ => renderInteger n
  | .double x _ => renderDouble x

end Number

end SlideDeck.Json
