import SlideDeck.Render.Error
import SlideDeck.Text.Blank
import SlideDeck.Text.Digit

/-! # Values of render programs

Programs compute with JSON values. This module holds what their operations do with
finished values: truth, equality, text, size and the way along a dotted path.
-/

namespace SlideDeck

namespace Json

/-- Null, false, zero and empty texts and collections count as false. -/
def truthy : Json → Bool
  | .null => false
  | .bool b => b
  | .number n => n.toFloat != 0
  | .string s => !s.isEmpty
  | .array items => !items.isEmpty
  | .object members => !members.isEmpty

/-- Two numbers are equal when their doubles are, other values when they agree. -/
def equals (a b : Json) : Bool :=
  match a, b with
  | .number x, .number y => x.toFloat == y.toFloat
  | _, _ => a.agrees b

/-- The natural number that a segment of a path writes; a plus sign may lead. -/
def indexOfSegment? (segment : String) : Option Nat :=
  let ds :=
    match segment.toList with
    | '+' :: rest => rest
    | cs => cs
  if ds.isEmpty || !ds.all Text.isAsciiDigit then none else some (Text.natOfDigits ds)

/-- The member or item that a segment of a path names. -/
def step? (segment : String) : Json → Option Json
  | .object members => members.lookup segment
  | .array items => (indexOfSegment? segment).bind fun i => items[i]?
  | _ => none

/-- The value at the end of a path; null where the path leads nowhere. -/
def follow (value : Json) : List String → Json
  | [] => value
  | segment :: rest =>
    match value.step? segment with
    | some next => follow next rest
    | none => .null

mutual

/-- The size of a value: eight for what has a fixed size, the bytes of a text, and
for a collection eight and the sizes of its names and values. -/
def byteSize : Json → Nat
  | .null | .bool _ | .number _ => 8
  | .string s => s.utf8ByteSize
  | .array items => 8 + byteSizeOfItems items
  | .object members => 8 + byteSizeOfMembers members

def byteSizeOfItems : List Json → Nat
  | [] => 0
  | j :: rest => byteSize j + byteSizeOfItems rest

def byteSizeOfMembers : List (String × Json) → Nat
  | [] => 0
  | (name, j) :: rest => name.utf8ByteSize + byteSize j + byteSizeOfMembers rest

end

mutual

/-- The size of a value as far as it matters: once a collection has passed the cap,
the rest of it is not looked at. -/
def cappedSize (cap : Nat) : Json → Nat
  | .null | .bool _ | .number _ => 8
  | .string s => s.utf8ByteSize
  | .array items => cappedSizeOfItems cap 8 items
  | .object members => cappedSizeOfMembers cap 8 members

def cappedSizeOfItems (cap : Nat) : Nat → List Json → Nat
  | size, [] => size
  | size, j :: rest =>
    let size := size + cappedSize cap j
    if cap < size then size else cappedSizeOfItems cap size rest

def cappedSizeOfMembers (cap : Nat) : Nat → List (String × Json) → Nat
  | size, [] => size
  | size, (name, j) :: rest =>
    let size := size + (name.utf8ByteSize + cappedSize cap j)
    if cap < size then size else cappedSizeOfMembers cap size rest

end

end Json

/-- The text of a number on a slide: whole numbers below `10 ^ 15` without a sign of
zero, all others as plain decimals. -/
def numberText (x : Float) : String :=
  if Binary64.isWhole x && x.abs < 1e15 then
    String.ofList (Json.Number.renderInteger (Binary64.toInt x))
  else Binary64.toPlainText x

/-- The text of a value that has one. -/
def textOf (op : String) : Json → Except ExecutionError String
  | .string s => .ok s
  | .number n => .ok (numberText n.toFloat)
  | .bool b => .ok (if b then "true" else "false")
  | j => .error (.typeMismatch op "text" (some j.kind))

/-- The double of a value that has to be a number. -/
def numberOf (op : String) (j : Json) : Except ExecutionError Float :=
  match j.toFloat? with
  | some x => .ok x
  | none => .error (.typeMismatch op "number" (some j.kind))

/-- The value of a result that has to be finite. -/
def ofResult (op : String) (x : Float) : Except ExecutionError Json :=
  match Json.Number.ofFloat? x with
  | some n => .ok (.number n)
  | none => .error (.nonFinite op)

end SlideDeck
