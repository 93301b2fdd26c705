import SlideDeck.Json.Draft
import SlideDeck.Text.Digit

/-! # Literals in JSON text

Every reader takes the characters ahead and returns the rest behind what it has
read; it fails where the text leaves the grammar. A number or a string that has the
grammar but no value is read as none.
-/

namespace SlideDeck.Json

/-- Reads a value of a kind from the characters ahead. -/
abbrev Reader (α : Type) := List Char → Option (α × List Char)

/-! ## Numbers -/

/-- A decimal in the making: as many leading digits as fit 64 bits, and the power
of ten that makes up for the places passed over. -/
structure Significand where
  value : Nat
  exponent : Int
  full : Bool

namespace Significand

/-- Takes a digit before the point. One that does not fit only counts as a place. -/
def integerDigit (s : Significand) (c : Char) : Significand :=
  let next := s.value * 10 + Text.digitValue c
  if s.full || UInt64.size ≤ next then ⟨s.value, s.exponent + 1, true⟩
  else ⟨next, s.exponent, false⟩

/-- Takes a digit after the point. From the first one that does not fit, all are
passed over. -/
def fractionDigit (s : Significand) (c : Char) : Significand :=
  let next := s.value * 10 + Text.digitValue c
  if s.full || UInt64.size ≤ next then ⟨s.value, s.exponent, true⟩
  else ⟨next, s.exponent - 1, false⟩

end Significand

/-- A power of ten that is a double: `10 ^ n` for `n` up to 308. -/
def powerOfTen (n : Nat) : Float := Binary64.ofNat (Nat.pow 10 n)

/-- Divides by a power of ten, in steps of at most `10 ^ 308`. -/
def divideByPower (x : Float) (n : Nat) : Float :=
  if n ≤ 308 then x / powerOfTen n
  else if x == 0 then x
  else divideByPower (x / powerOfTen 308) (n - 308)
termination_by n

/-- The double that a significand and a power of ten give by one multiplication or
by divisions; none when it is too great. -/
def scaleByPower (significand : Nat) (exponent : Int) : Option Float :=
  let x := Binary64.ofNat significand
  if exponent < 0 then some (divideByPower x exponent.natAbs)
  else if exponent ≤ 308 then
    let scaled := x * powerOfTen exponent.natAbs
    if scaled.isFinite then some scaled else none
  else if significand = 0 then some x else none

/-- The number of a sign and a double. -/
def signedDouble (negative : Bool) (x : Float) : Option Number :=
  Number.ofFloat? (if negative then -x else x)

/-- The number of a literal without fraction and exponent. -/
def integerNumber (negative : Bool) (s : Significand) : Option Number :=
  let signed : Int := if negative then -s.value else s.value
  if h : (-0x8000000000000000 ≤ signed ∧ signed < 0x10000000000000000) ∧ !s.full ∧
      !(negative && s.value == 0) then
    some (.integer signed h.1)
  else (scaleByPower s.value s.exponent).bind (signedDouble negative)

/-- Reads the exponent behind its mark. -/
def readExponent (negative : Bool) (s : Significand) : Reader (Option Number) := fun cs =>
  let (below, cs) :=
    match cs with
    | '+' :: rest => (false, rest)
    | '-' :: rest => (true, rest)
    | _ => (false, cs)
  let ds := cs.takeWhile Text.isAsciiDigit
  let rest := cs.dropWhile Text.isAsciiDigit
  if ds.isEmpty then none
  else
    let e := Text.natOfDigits ds
    let value : Option Float :=
      if 0x80000000 ≤ e then
        if s.value ≠ 0 ∧ !below then none else some 0
      else scaleByPower s.value (if below then s.exponent - e else s.exponent + e)
    some (value.bind (signedDouble negative), rest)

/-- Reads what follows the digits before the point. -/
def readFraction (negative : Bool) (s : Significand) : Reader (Option Number)
  | '.' :: cs =>
    let ds := cs.takeWhile Text.isAsciiDigit
    let rest := cs.dropWhile Text.isAsciiDigit
    if ds.isEmpty then none
    else
      let s := ds.foldl Significand.fractionDigit ⟨s.value, s.exponent, false⟩
      match rest with
      | 'e' :: rest | 'E' :: rest => readExponent negative s rest
      | _ => some ((scaleByPower s.value s.exponent).bind (signedDouble negative), rest)
  | 'e' :: cs | 'E' :: cs => readExponent negative s cs
  | cs => some (integerNumber negative s, cs)

/-- Reads a number; a leading zero stands alone before the point. -/
def readNumber : Reader (Option Number) := fun cs =>
  let (negative, cs) :=
    match cs with
    | '-' :: rest => (true, rest)
    | _ => (false, cs)
  let ds := cs.takeWhile Text.isAsciiDigit
  let rest := cs.dropWhile Text.isAsciiDigit
  match ds with
  | [] => none
  | '0' :: _ :: _ => none
  | _ => readFraction negative (ds.foldl Significand.integerDigit ⟨0, 0, false⟩) rest

/-! ## Strings -/

/-- The value of four hexadecimal digits. -/
def hexQuad? (a b c d : Char) : Option Nat := do
  let a ← Text.hexValue? a
  let b ← Text.hexValue? b
  let c ← Text.hexValue? c
  let d ← Text.hexValue? d
  return ((a * 16 + b) * 16 + c) * 16 + d

/-- The character of a one-letter escape. -/
def simpleEscape? : Char → Option Char
  | '"' => some '"'
  | '\\' => some '\\'
  | '/' => some '/'
  | 'b' => some '\x08'
  | 'f' => some '\x0c'
  | 'n' => some '\n'
  | 'r' => some '\r'
  | 't' => some '\t'
  | _ => none

/-- Reads a string up to its closing quote as a list of codes, of which an escape
may be a surrogate. Control characters have to be escaped. -/
def readCodes : List Nat → Reader (List Nat)
  | done, '"' :: rest => some (done.reverse, rest)
  | done, '\\' :: 'u' :: a :: b :: c :: d :: rest =>
    match hexQuad? a b c d with
    | some code => readCodes (code :: done) rest
    | none => none
  | done, '\\' :: c :: rest =>
    match simpleEscape? c with
    | some e => readCodes (e.toNat :: done) rest
    | none => none
  | done, c :: rest => if c.toNat < 0x20 then none else readCodes (c.toNat :: done) rest
  | _, [] => none

/-- A code of the first half of a pair of surrogates. -/
def isHighSurrogate (code : Nat) : Bool := 0xD800 ≤ code && code ≤ 0xDBFF

/-- A code of the second half of a pair of surrogates. -/
def isLowSurrogate (code : Nat) : Bool := 0xDC00 ≤ code && code ≤ 0xDFFF

/-- The characters of codes, in reverse and behind those done. Surrogates have to come
in pairs. -/
def charsOfCodes? : List Char → List Nat → Option (List Char)
  | done, [] => some done
  | done, code :: rest =>
    if isHighSurrogate code then
      match rest with
      | low :: rest =>
        if isLowSurrogate low then
          charsOfCodes?
            (Char.ofNat (0x10000 + (code - 0xD800) * 0x400 + (low - 0xDC00)) :: done) rest
        else none
      | [] => none
    else if isLowSurrogate code then none
    else charsOfCodes? (Char.ofNat code :: done) rest

/-- The text of codes; none if a surrogate stands alone. -/
def textOfCodes? (codes : List Nat) : Option String :=
  (charsOfCodes? [] codes).map fun cs => String.ofList cs.reverse

/-- Reads a string behind its opening quote. -/
def readString : Reader (Option String) := fun cs =>
  (readCodes [] cs).map fun (codes, rest) => (textOfCodes? codes, rest)

/-! ## Literals -/

/-- Reads a value that is no array and no object. -/
def readLiteral : Reader Draft
  | 'n' :: 'u' :: 'l' :: 'l' :: rest => some (.null, rest)
  | 't' :: 'r' :: 'u' :: 'e' :: rest => some (.bool true, rest)
  | 'f' :: 'a' :: 'l' :: 's' :: 'e' :: rest => some (.bool false, rest)
  | '"' :: rest => (readString rest).map fun (s, rest) => (s.elim .unreadable .string, rest)
  | cs => (readNumber cs).map fun (n, rest) => (n.elim .unreadable .number, rest)

end SlideDeck.Json
