import SlideDeck.Text.Blank
import SlideDeck.Text.Digit

/-! # Semantic versions

Three numbers, then perhaps the identifiers of a pre-release and of a build.
Versions are ordered by all of their parts: a pre-release comes before its release
and a build after it.
-/

namespace SlideDeck

/-- A semantic version. -/
structure Version where
  major : Nat
  minor : Nat
  patch : Nat
  /-- The identifiers of a pre-release, or none. -/
  pre : List String
  /-- The identifiers of a build, or none. -/
  build : List String
deriving DecidableEq, Repr

namespace Version

/-- Letters, digits and the hyphen. -/
def isIdentifierChar (c : Char) : Bool := c.isAlphanum || c == '-'

/-- A number without leading zeros that fits 64 bits. -/
def number? (cs : List Char) : Option Nat :=
  match cs with
  | [] => none
  | '0' :: _ :: _ => none
  | _ =>
    let n := Text.natOfDigits cs
    if cs.all Text.isAsciiDigit ∧ n < UInt64.size then some n else none

/-- Identifiers with points between them. Where numbers count, they have no leading
zeros. -/
def identifiers? (strict : Bool) (cs : List Char) : Option (List String) :=
  let parts := Text.splitOn '.' cs
  let sound (part : List Char) : Bool :=
    !part.isEmpty && part.all isIdentifierChar &&
      !(strict && part.all Text.isAsciiDigit && 1 < part.length && part.head? == some '0')
  if parts.all sound then some (parts.map String.ofList) else none

/-- Reads the three numbers. -/
def core? (cs : List Char) : Option (Nat × Nat × Nat) :=
  match Text.splitOn '.' cs with
  | [a, b, c] => do return (← number? a, ← number? b, ← number? c)
  | _ => none

/-- Reads a version; nothing may stand around it. -/
def parse? (text : String) : Option Version := do
  let cs := text.toList
  let (front, build) ←
    match Text.splitFirst '+' cs with
    | some (front, build) => (identifiers? false build).map (front, ·)
    | none => some (cs, [])
  let (front, pre) ←
    match Text.splitFirst '-' front with
    | some (front, pre) => (identifiers? true pre).map (front, ·)
    | none => some (front, [])
  let (major, minor, patch) ← core? front
  return ⟨major, minor, patch, pre, build⟩

/-- The text of a version. -/
def text (v : Version) : String :=
  s!"{v.major}.{v.minor}.{v.patch}" ++
    (if v.pre.isEmpty then "" else "-" ++ ".".intercalate v.pre) ++
    (if v.build.isEmpty then "" else "+" ++ ".".intercalate v.build)

/-- Numbers come before other identifiers and are ordered by size; of equal ones the
shorter comes first. -/
def compareIdentifiers (a b : String) : Ordering :=
  let isNumber (s : String) : Bool := s.toList.all Text.isAsciiDigit
  match isNumber a, isNumber b with
  | true, false => .lt
  | false, true => .gt
  | false, false => compare a b
  | true, true =>
    (compare (Text.natOfDigits a.toList) (Text.natOfDigits b.toList)).then
      (compare a.length b.length)

/-- Lists of identifiers are ordered by the first difference; a list comes before
those that it begins. -/
def compareLists : List String → List String → Ordering
  | [], [] => .eq
  | [], _ :: _ => .lt
  | _ :: _, [] => .gt
  | a :: as, b :: bs => (compareIdentifiers a b).then (compareLists as bs)

/-- A release comes after all of its pre-releases. -/
def comparePre (a b : List String) : Ordering :=
  match a, b with
  | [], [] => .eq
  | [], _ :: _ => .gt
  | _ :: _, [] => .lt
  | _, _ => compareLists a b

/-- The order of versions. -/
def order (a b : Version) : Ordering :=
  (compare a.major b.major).then <| (compare a.minor b.minor).then <|
    (compare a.patch b.patch).then <| (comparePre a.pre b.pre).then <|
      compareLists a.build b.build

/-- One version comes before another. -/
def precedes (a b : Version) : Bool := a.order b == .lt

/-- The version of the render engine. -/
def engine : Version := ⟨1, 0, 0, [], []⟩

/-- The engine that a component asks for when it states none. -/
def leastEngine : String := "1.0.0"

end Version

end SlideDeck
