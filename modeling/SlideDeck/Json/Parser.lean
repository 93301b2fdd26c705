import SlideDeck.Json.Literal

/-! # Reading JSON text

`Draft.parse?` reads a whole text as a draft and keeps the members of an object as they
were written; `Json.parse?` reads it as a value in normal form. Arrays and objects that
are nested more than 127 deep have the grammar of values but are unreadable.
-/

namespace SlideDeck.Json

/-- Space, tab, line feed and carriage return are the only blanks of JSON. -/
def isJsonBlank (c : Char) : Bool := c == ' ' || c == '\n' || c == '\t' || c == '\r'

/-- The characters after the blanks ahead. -/
def skipBlanks (cs : List Char) : List Char := cs.dropWhile isJsonBlank

/-! ## Passing over values -/

/-- The two kinds of brackets around entries. -/
inductive Bracket
  | square
  | curly
deriving DecidableEq, Repr

/-- What comes next in a text that is passed over. -/
inductive Ahead
  | value
  | member
  | separator
deriving DecidableEq, Repr

/-- The characters behind a value that is only held to the grammar, however deep it
nests. The brackets are those still open, the innermost in front. -/
def passOver : (fuel : Nat) → Ahead → List Bracket → List Char → Option (List Char)
  | 0, _, _, _ => none
  | _, .separator, [], cs => some cs
  | fuel + 1, .separator, bracket :: outer, cs =>
    match bracket, skipBlanks cs with
    | .square, ']' :: rest => passOver fuel .separator outer rest
    | .curly, '}' :: rest => passOver fuel .separator outer rest
    | .square, ',' :: rest => passOver fuel .value (.square :: outer) rest
    | .curly, ',' :: rest => passOver fuel .member (.curly :: outer) rest
    | _, _ => none
  | fuel + 1, .member, brackets, cs =>
    match skipBlanks cs with
    | '"' :: rest => do
      let (_, rest) ← readString rest
      match skipBlanks rest with
      | ':' :: rest => passOver fuel .value brackets rest
      | _ => none
    | _ => none
  | fuel + 1, .value, brackets, cs =>
    match skipBlanks cs with
    | '[' :: rest =>
      match skipBlanks rest with
      | ']' :: rest => passOver fuel .separator brackets rest
      | rest => passOver fuel .value (.square :: brackets) rest
    | '{' :: rest =>
      match skipBlanks rest with
      | '}' :: rest => passOver fuel .separator brackets rest
      | rest => passOver fuel .member (.curly :: brackets) rest
    | cs => do
      let (_, rest) ← readLiteral cs
      passOver fuel .separator brackets rest

/-! ## Values -/

/-- Reads the items of an array behind its bracket, at most `fuel` of them. -/
def readItems (item : Reader Draft) : (fuel : Nat) → Reader (List Draft)
  | 0, _ => none
  | fuel + 1, cs => do
    let (value, cs) ← item (skipBlanks cs)
    match skipBlanks cs with
    | ']' :: rest => return ([value], rest)
    | ',' :: rest =>
      let (values, rest) ← readItems item fuel rest
      return (value :: values, rest)
    | _ => none

/-- Reads the members of an object behind its brace, at most `fuel` of them. There are
none where a name is unreadable. -/
def readMembers (item : Reader Draft) : (fuel : Nat) → Reader (Option (List (String × Draft)))
  | 0, _ => none
  | fuel + 1, cs =>
    match skipBlanks cs with
    | '"' :: cs => do
      let (name, cs) ← readString cs
      match skipBlanks cs with
      | ':' :: cs =>
        let (value, cs) ← item (skipBlanks cs)
        match skipBlanks cs with
        | '}' :: rest => return (name.map fun name => [(name, value)], rest)
        | ',' :: rest =>
          let (members, rest) ← readMembers item fuel rest
          return (do return (← name, value) :: (← members), rest)
        | _ => none
      | _ => none
    | _ => none

/-- Reads a value that starts with the next character and has at most `size` entries in
each array and object. Those nested deeper than `depth` are passed over. -/
def readValue (size : Nat) : (depth : Nat) → Reader Draft
  | depth + 1, '[' :: rest =>
    match skipBlanks rest with
    | ']' :: rest => some (.array [], rest)
    | _ => do
      let (items, rest) ← readItems (readValue size depth) size rest
      return (.array items, rest)
  | depth + 1, '{' :: rest =>
    match skipBlanks rest with
    | '}' :: rest => some (.object [], rest)
    | _ => do
      let (members, rest) ← readMembers (readValue size depth) size rest
      return (members.elim .unreadable .object, rest)
  | 0, '[' :: rest => (passOver (size + 1) .value [] ('[' :: rest)).map (.unreadable, ·)
  | 0, '{' :: rest => (passOver (size + 1) .value [] ('{' :: rest)).map (.unreadable, ·)
  | _, cs => readLiteral cs

/-- The greatest depth of nested arrays and objects. -/
def maxNesting : Nat := 127

/-- Reads a text that is one value between blanks, members as they are written. -/
def Draft.parse? (s : String) : Option Draft :=
  let cs := s.toList
  match readValue cs.length maxNesting (skipBlanks cs) with
  | some (draft, rest) => if (skipBlanks rest).isEmpty then some draft else none
  | none => none

/-- Reads a text as one value in normal form. -/
def parse? (s : String) : Option Json := (Draft.parse? s).bind Draft.value?

end SlideDeck.Json
