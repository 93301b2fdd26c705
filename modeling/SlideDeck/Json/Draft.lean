import SlideDeck.Json.Basic

/-! # Drafts of JSON values

A text can have the grammar of JSON and still hold parts that are no values: numbers
that no double reaches, surrogates that stand alone, names that cannot be read, nests
that are too deep. A draft is such a text as it was written. Its parts are judged when
they are asked for, so a part that nobody asks for does no harm.
-/

namespace SlideDeck.Json

/-- A JSON text as it was written, with the parts that are no values. -/
inductive Draft
  | unreadable
  | null
  | bool (value : Bool)
  | number (value : Number)
  | string (value : String)
  | array (items : List Draft)
  | object (members : List (String × Draft))

namespace Draft

instance : Inhabited Draft := ⟨.unreadable⟩

mutual

/-- The draft of a value. -/
def ofJson : Json → Draft
  | .null => .null
  | .bool b => .bool b
  | .number n => .number n
  | .string s => .string s
  | .array items => .array (ofItems items)
  | .object members => .object (ofMembers members)

def ofItems : List Json → List Draft
  | [] => []
  | j :: rest => ofJson j :: ofItems rest

def ofMembers : List (String × Json) → List (String × Draft)
  | [] => []
  | (name, j) :: rest => (name, ofJson j) :: ofMembers rest

end

mutual

/-- The value of a draft in normal form: names ascend and the last member of a name
counts. There is none if any part is unreadable. -/
def value? : Draft → Option Json
  | .unreadable => none
  | .null => some .null
  | .bool b => some (.bool b)
  | .number n => some (.number n)
  | .string s => some (.string s)
  | .array items => (values? items).map .array
  | .object members => (memberValues? members).map .object

def values? : List Draft → Option (List Json)
  | [] => some []
  | d :: rest => do return (← value? d) :: (← values? rest)

def memberValues? : List (String × Draft) → Option (List (String × Json))
  | [] => some []
  | (name, d) :: rest => do
    let value ← value? d
    let later ← memberValues? rest
    return if (later.lookup name).isSome then later else insertMember name value later

end

mutual

/-- The number of arrays and objects along the deepest path of a draft. -/
def nesting : Draft → Nat
  | .array items => nestingOfItems items + 1
  | .object members => nestingOfMembers members + 1
  | _ => 0

def nestingOfItems : List Draft → Nat
  | [] => 0
  | d :: rest => max (nesting d) (nestingOfItems rest)

def nestingOfMembers : List (String × Draft) → Nat
  | [] => 0
  | (_, d) :: rest => max (nesting d) (nestingOfMembers rest)

end

end Draft

end SlideDeck.Json
