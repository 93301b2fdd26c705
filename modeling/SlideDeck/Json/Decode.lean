import SlideDeck.Json.Draft

/-! # Decoding JSON

A decoder takes a draft to a domain type, or refuses it. Records are decoded by
the names of their members: unknown members are passed over, whatever they hold, and
a known name that is written twice is refused. An array is a record as well, whose
items stand for the members in the order of their declaration; it may end early, but
has no items beyond them.
-/

namespace SlideDeck.Json

/-- Takes a draft to a domain type. -/
abbrev Decoder (α : Type) := Draft → Option α

namespace Decoder

/-- Accepts every value, in normal form. -/
def any : Decoder Json := Draft.value?

/-- Decodes a draft that is readable in all its parts. -/
def whole (decode : Decoder α) : Decoder α := fun d =>
  if d.value?.isSome then decode d else none

/-- Accepts a string. -/
def string : Decoder String
  | .string s => some s
  | _ => none

/-- Accepts true and false. -/
def bool : Decoder Bool
  | .bool b => some b
  | _ => none

/-- Accepts an integer that is not negative. -/
def nat : Decoder Nat
  | .number n => n.toNat?
  | _ => none

/-- Accepts a number of either kind. -/
def float : Decoder Float
  | .number n => some n.toFloat
  | _ => none

/-- Accepts an array whose items all decode. -/
def list (item : Decoder α) : Decoder (List α)
  | .array items => items.mapM item
  | _ => none

/-- Accepts null as well. -/
def nullable (value : Decoder α) : Decoder (Option α)
  | .null => some none
  | d => (value d).map some

/-- Accepts a name of an enumeration, also as the one member of an object that
has nothing to say about it. -/
def name (ofName? : String → Option α) : Decoder α
  | .string s => ofName? s
  | .object [(s, .null)] => ofName? s
  | _ => none

/-- Accepts a name as `name` does; an object without members says nothing, too. -/
def looseName (ofName? : String → Option α) : Decoder α
  | .object [(s, .object [])] => ofName? s
  | d => name ofName? d

/-- Accepts an object as a map: names ascend and the last member of a name counts. -/
def map (value : Decoder α) : Decoder (List (String × α))
  | .object members => do
    let decoded ← members.mapM fun (name, d) => return (name, ← value d)
    return decoded.foldr
      (fun (name, v) later =>
        if (later.lookup name).isSome then later else insertMember name v later) []
  | _ => none

end Decoder

/-- The members of a value that is decoded by names. -/
abbrev Record := List (String × Draft)

namespace Draft

/-- The members of an object, if none of the known names is written twice, or the items
of an array with the known names in their order. -/
def record? (known : List String) : Draft → Option Record
  | .object members =>
    if known.all fun name => (members.filter (·.1 == name)).length ≤ 1 then some members
    else none
  | .array items => if items.length ≤ known.length then some (known.zip items) else none
  | _ => none

/-- An array does not end before it has as many items. -/
def fills (count : Nat) : Draft → Bool
  | .array items => count ≤ items.length
  | _ => true

/-- A value that says of which kind it is, with what there is beside the kind. -/
structure Tagged where
  tag : Draft
  content : Draft

/-- The kind of an object is one of its members, and the kind of an array is its first
item. An object keeps the member, which its kind knows nothing of. -/
def tagged? (name : String) : Draft → Option Tagged
  | .array (tag :: items) => some ⟨tag, .array items⟩
  | .object members => do
    let r ← record? [name] (.object members)
    return ⟨← r.lookup name, .object members⟩
  | _ => none

end Draft

namespace Record

/-- A member that has to be there. -/
def required (r : Record) (name : String) (value : Decoder α) : Option α :=
  (r.lookup name).bind value

/-- A member that has a default value. -/
def optional (r : Record) (name : String) (absent : α) (value : Decoder α) : Option α :=
  match r.lookup name with
  | some d => value d
  | none => some absent

/-- A member that may be absent or null. -/
def nullable (r : Record) (name : String) (value : Decoder α) : Option (Option α) :=
  r.optional name none (Decoder.nullable value)

/-- A member that goes by two names, of which one at most may be used. -/
def either (r : Record) (name other : String) : Option (Option Draft) :=
  match r.lookup name, r.lookup other with
  | some _, some _ => none
  | some d, none | none, some d => some (some d)
  | none, none => some none

end Record

/-- A member for each value that is there. -/
def memberIf (name : String) (value : Option α) (encode : α → Json) :
    List (String × Json) :=
  value.elim [] fun v => [(name, encode v)]

/-- A value that is null when it is absent. -/
def ofOption (value : Option α) (encode : α → Json) : Json := value.elim .null encode

end SlideDeck.Json
