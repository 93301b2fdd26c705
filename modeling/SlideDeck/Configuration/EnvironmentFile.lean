import SlideDeck.Text.Alphanumeric
import SlideDeck.Text.Blank

/-! # Environment files

An environment file sets variables, one to a logical line: `NAME=value`, perhaps behind
`export`. Values may be quoted, single quotes taking everything as it stands and double
quotes allowing escapes; a quoted value may run over several lines. `$NAME` and a name
in braces behind `$` stand for values that are set already. A `#` behind a blank starts
a comment. The first line that is none of this ends the file.
-/

namespace SlideDeck.EnvironmentFile

/-- The value of a variable by its name. -/
abbrev Lookup := String → Option String

/-! ## Logical lines -/

/-- Where a scan of a line is. -/
inductive LineState
  | plain
  | blank
  | escape
  | single
  | singleEscape
  | double
  | doubleEscape
deriving DecidableEq, Repr

/-- The state that a character opens outside of quotes. -/
def opened : Char → LineState
  | '\\' => .escape
  | '"' => .double
  | '\'' => .single
  | _ => .plain

/-- The state after a character; a comment has none. -/
def LineState.next? (s : LineState) (c : Char) : Option LineState :=
  match s with
  | .blank => if c = '#' then none else some (opened c)
  | .escape => some .plain
  | .plain => some (if Text.isBlank c && c != '\n' && c != '\r' then .blank else opened c)
  | .double => some (if c = '\\' then .doubleEscape else if c = '"' then .plain else .double)
  | .doubleEscape => some .double
  | .single => some (if c = '\\' then .singleEscape else if c = '\'' then .plain else .single)
  | .singleEscape => some .single

/-- Reads a physical line: its characters up to a comment, and the state at its end,
which is `none` in a comment. -/
def scanLine (s : LineState) : List Char → List Char × Option LineState
  | [] => ([], some s)
  | c :: rest =>
    match s.next? c with
    | none => ([], none)
    | some s =>
      let (taken, last) := scanLine s rest
      (c :: taken, last)

/-- The physical lines of a text, line ends included. -/
def physicalLines (cs : List Char) : List (List Char) :=
  close (Text.splitOn '\n' cs)
where
  /-- Puts back the line ends; behind the last one there is no line. -/
  close : List (List Char) → List (List Char)
    | [] => []
    | [last] => if last.isEmpty then [] else [last]
    | piece :: rest => (piece ++ ['\n']) :: close rest

/-- The lines with quotes closed over line ends. A quote, an escape or a blank that is
open at the end of the file makes the last line `none`. -/
def logicalLines (buffer : List Char) (s : LineState) :
    List (List Char) → List (Option (List Char))
  | [] => if s = .plain && buffer.isEmpty then [] else [none]
  | line :: rest =>
    if (((buffer ++ line).dropWhile Text.isBlank).head? == some '#') then
      logicalLines [] .plain rest
    else
      match scanLine s line with
      | (taken, none) => some (buffer ++ taken) :: logicalLines [] .plain rest
      | (_, some .plain) => some (buffer ++ line) :: logicalLines [] .plain rest
      | (_, some state) => logicalLines (buffer ++ line) state rest

/-! ## Values -/

/-- How a name behind `$` is being read, its last character first. -/
inductive Reference
  | none
  | bare (name : List Char)
  | braced (name : List Char)

/-- How far the reading of a value is; the text comes last character first. -/
structure ValueState where
  text : List Char
  single : Bool
  double : Bool
  escaped : Bool
  atEnd : Bool
  reference : Reference

/-- A value of which nothing is read. -/
def ValueState.start : ValueState := ⟨[], false, false, false, false, .none⟩

/-- Adds the value of a name, last character first, to a text. -/
def substitute (lookup : Lookup) (name text : List Char) : List Char :=
  match lookup (String.ofList name.reverse) with
  | some value => value.toList.reverse ++ text
  | none => text

/-- Adds a character to the text. -/
def ValueState.push (s : ValueState) (c : Char) : ValueState := { s with text := c :: s.text }

/-- Takes a character that is not part of a name, outside of escapes and single
quotes. -/
def ValueState.takePlain (s : ValueState) (c : Char) : ValueState :=
  if c = '$' then { s with reference := .bare [] }
  else if s.double then
    if c = '"' then { s with double := false }
    else if c = '\\' then { s with escaped := true }
    else s.push c
  else
    match c with
    | '\'' => { s with single := true }
    | '"' => { s with double := true }
    | '\\' => { s with escaped := true }
    | ' ' | '\t' => { s with atEnd := true }
    | _ => s.push c

/-- Takes a character behind the name of a reference. -/
def ValueState.takeAfterName (lookup : Lookup) (s : ValueState) (name : List Char)
    (c : Char) : ValueState :=
  let s := { s with text := substitute lookup name s.text, reference := .none }
  if c = '$' then { s with reference := .bare [] } else s.push c

/-- Takes the next character of a value; a value that goes on after its end, or with an
unknown escape, has no next state. -/
def ValueState.take? (lookup : Lookup) (s : ValueState) (c : Char) : Option ValueState :=
  if s.atEnd then (if c = ' ' ∨ c = '\t' then some s else none)
  else if s.escaped then
    if ['\\', '\'', '"', '$', ' '].contains c then some { s.push c with escaped := false }
    else if c = 'n' then some { s.push '\n' with escaped := false }
    else none
  else if s.single then some (if c = '\'' then { s with single := false } else s.push c)
  else
    match s.reference with
    | .none => some (s.takePlain c)
    | .bare name =>
      if Text.isAlphanumeric c then some { s with reference := .bare (c :: name) }
      else if c = '\x7b' ∧ name.isEmpty then some { s with reference := .braced [] }
      else some (s.takeAfterName lookup name c)
    | .braced name =>
      if c = '\x7d' then
        some { s with text := substitute lookup name s.text, reference := .none }
      else some { s with reference := .braced (c :: name) }

/-- Reads a value from a state on, up to a comment. -/
def readValue? (lookup : Lookup) (s : ValueState) : List Char → Option String
  | [] =>
    if s.single || s.double then none
    else
      match s.reference with
      | .none => some (String.ofList s.text.reverse)
      | .bare name => some (String.ofList (substitute lookup name s.text).reverse)
      | .braced _ => none
  | c :: rest =>
    if s.atEnd && c == '#' then readValue? lookup s []
    else
      match s.take? lookup c with
      | some s => readValue? lookup s rest
      | none => none

/-! ## Assignments -/

/-- The name at the start of a line and the rest of the line. -/
def readName? (cs : List Char) : Option (String × List Char) :=
  match cs with
  | c :: _ =>
    if c.isAlpha || c == '_' then
      let isNameChar (c : Char) : Bool := c.isAlphanum || c == '_' || c == '.'
      some (String.ofList (cs.takeWhile isNameChar), cs.dropWhile isNameChar)
    else none
  | [] => none

/-- The rest of a line behind an equals sign. -/
def behindEquals? : List Char → Option (List Char)
  | '=' :: rest => some rest
  | _ => none

/-- The name that a line sets and the rest of the line behind the equals sign. -/
def readTarget? (cs : List Char) : Option (String × List Char) := do
  let (name, rest) ← readName? cs
  let rest := rest.dropWhile Text.isBlank
  match behindEquals? rest with
  | some value => return (name, value)
  | none =>
    if name = "export" then
      let (name, rest) ← readName? rest
      return (name, ← behindEquals? (rest.dropWhile Text.isBlank))
    else none

/-- What a line says. -/
inductive Line
  | empty
  | assignment (name value : String)
  | malformed

/-- Reads a logical line. -/
def readLine (lookup : Lookup) (line : List Char) : Line :=
  let cs := Text.trimChars line
  if cs.isEmpty || cs.head? == some '#' then .empty
  else
    match readTarget? cs with
    | none => .malformed
    | some (name, rest) =>
      let rest := rest.dropWhile Text.isBlank
      if rest.isEmpty || rest.head? == some '#' then .assignment name ""
      else
        match readValue? lookup .start rest with
        | some value => .assignment name value
        | none => .malformed

/-- The variables after an assignment. One that is set keeps its value; a new one cannot
hold the character NUL. -/
def assign? (lookup : Lookup) (name value : String) : Option Lookup :=
  if (lookup name).isSome then some lookup
  else if value.toList.contains '\x00' then none
  else some fun other => if other = name then some value else lookup other

/-- The variables after the lines of a file; none if one of them cannot be set. -/
def readLines (lookup : Lookup) : List (Option (List Char)) → Option Lookup
  | [] => some lookup
  | none :: _ => some lookup
  | some line :: rest =>
    match readLine lookup line with
    | .empty => readLines lookup rest
    | .assignment name value =>
      match assign? lookup name value with
      | some lookup => readLines lookup rest
      | none => none
    | .malformed => some lookup

/-- The variables after a file. What is set already stays as it is. There are none if
the file has a value that no variable can hold. -/
def load? (lookup : Lookup) (file : String) : Option Lookup :=
  let cs :=
    match file.toList with
    | '\uFEFF' :: rest => rest
    | cs => cs
  readLines lookup (logicalLines [] .plain (physicalLines cs))

/-- The names that a file may refer to in its values. -/
def references : List Char → List String
  | '$' :: '\x7b' :: rest => String.ofList (rest.takeWhile (· != '\x7d')) :: references rest
  | '$' :: rest => String.ofList (rest.takeWhile Text.isAlphanumeric) :: references rest
  | _ :: rest => references rest
  | [] => []

end SlideDeck.EnvironmentFile
