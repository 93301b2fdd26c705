import SlideDeck.Json.Basic

/-! # JSON text of values

`render` writes a value without blanks and with its members as they stand;
`canonical` sorts the members first, so that values which differ only in the order
of members have one text. `pretty` lays a value out over indented lines.
-/

namespace SlideDeck.Json

/-- A hexadecimal digit in lower case. -/
def hexDigit (n : Nat) : Char := Nat.digitChar (n % 16)

/-- One character inside a JSON string: quotes, backslashes and control characters
are escaped, all others stand for themselves. -/
def escapeChar (c : Char) : List Char :=
  match c with
  | '"' => ['\\', '"']
  | '\\' => ['\\', '\\']
  | '\n' => ['\\', 'n']
  | '\r' => ['\\', 'r']
  | '\t' => ['\\', 't']
  | '\x08' => ['\\', 'b']
  | '\x0c' => ['\\', 'f']
  | _ =>
    if c.toNat < 0x20 then
      ['\\', 'u', '0', '0', hexDigit (c.toNat / 16), hexDigit c.toNat]
    else [c]

/-- A quoted JSON string. -/
def renderString (s : String) : List Char := '"' :: (s.toList.flatMap escapeChar ++ ['"'])

mutual

/-- The text of a value without blanks. -/
def render : Json → List Char
  | .null => ['n', 'u', 'l', 'l']
  | .bool true => ['t', 'r', 'u', 'e']
  | .bool false => ['f', 'a', 'l', 's', 'e']
  | .number n => n.render
  | .string s => renderString s
  | .array [] => ['[', ']']
  | .array (j :: rest) => '[' :: (render j ++ renderItems rest)
  | .object [] => ['{', '}']
  | .object ((name, value) :: rest) =>
    '{' :: (renderString name ++ ':' :: (render value ++ renderMembers rest))

/-- The items after the first one and the closing bracket. -/
def renderItems : List Json → List Char
  | [] => [']']
  | j :: rest => ',' :: (render j ++ renderItems rest)

/-- The members after the first one and the closing brace. -/
def renderMembers : List (String × Json) → List Char
  | [] => ['}']
  | (name, value) :: rest =>
    ',' :: (renderString name ++ ':' :: (render value ++ renderMembers rest))

end

/-- The text of a value without blanks. -/
def compact (j : Json) : String := String.ofList j.render

/-- The text of a value without blanks and with sorted members. -/
def canonical (j : Json) : String := compact j.sorted

/-- A new line at a depth of indentation, two columns each. -/
def newline (depth : Nat) : List Char := '\n' :: List.replicate (2 * depth) ' '

mutual

/-- The text of a value with every item and member on a line of its own. -/
def renderPretty (depth : Nat) : Json → List Char
  | .array (j :: rest) =>
    '[' :: (newline (depth + 1) ++ renderPretty (depth + 1) j ++ prettyItems depth rest)
  | .object ((name, value) :: rest) =>
    '{' :: (newline (depth + 1) ++ renderString name ++ ':' :: ' ' ::
      (renderPretty (depth + 1) value ++ prettyMembers depth rest))
  | j => render j

def prettyItems (depth : Nat) : List Json → List Char
  | [] => newline depth ++ [']']
  | j :: rest =>
    ',' :: (newline (depth + 1) ++ renderPretty (depth + 1) j ++ prettyItems depth rest)

def prettyMembers (depth : Nat) : List (String × Json) → List Char
  | [] => newline depth ++ ['}']
  | (name, value) :: rest =>
    ',' :: (newline (depth + 1) ++ renderString name ++ ':' :: ' ' ::
      (renderPretty (depth + 1) value ++ prettyMembers depth rest))

end

/-- The text of a value over indented lines, with sorted members. -/
def pretty (j : Json) : String := String.ofList (renderPretty 0 j.sorted)

end SlideDeck.Json
