import SlideDeck.Json.Decode
import SlideDeck.Json.Printer

/-! # Data schemas

A schema states the shape of a payload: the kind of a value, the members a record
must have, the schemas of its members and of the items of an array, and how many
items there may be. The same form describes the root and every member.
-/

namespace SlideDeck

/-- The kinds of values that a schema can ask for. -/
inductive SchemaType
  | object
  | array
  | string
  | number
  | integer
  | boolean
deriving DecidableEq, Repr

namespace SchemaType

/-- The name of a kind in schemas and messages. -/
def name : SchemaType → String
  | .object => "object"
  | .array => "array"
  | .string => "string"
  | .number => "number"
  | .integer => "integer"
  | .boolean => "boolean"

/-- The kind of a name. -/
def ofName? : String → Option SchemaType
  | "object" => some .object
  | "array" => some .array
  | "string" => some .string
  | "number" => some .number
  | "integer" => some .integer
  | "boolean" => some .boolean
  | _ => none

/-- A value is of a kind; an integer is a number without a fraction. -/
def admits : SchemaType → Json → Bool
  | .object, .object _ => true
  | .array, .array _ => true
  | .string, .string _ => true
  | .number, .number _ => true
  | .integer, .number n => Binary64.isWhole n.toFloat
  | .boolean, .bool _ => true
  | _, _ => false

end SchemaType

/-- The shape of a value. -/
structure Schema where
  type : Option SchemaType := none
  required : List String := []
  properties : List (String × Schema) := []
  items : Option Schema := none
  minItems : Option Nat := none
  maxItems : Option Nat := none

namespace Schema

/-- The schema that accepts every value. -/
def anything : Schema := {}

instance : Inhabited Schema := ⟨anything⟩

/-- The schema of a member. -/
def property? (s : Schema) (name : String) : Option Schema := s.properties.lookup name

/-- A member has to be there. -/
def isRequired (s : Schema) (name : String) : Bool := s.required.contains name

mutual

/-- The JSON form of a schema; what a schema leaves open is left out. -/
def toJson : Schema → Json
  | ⟨type, required, properties, items, minItems, maxItems⟩ =>
    Json.ofMembers <|
      Json.memberIf "type" type (fun t => .string t.name) ++
      (if required.isEmpty then [] else [("required", .ofStrings required)]) ++
      (if properties.isEmpty then []
        else [("properties", .object (propertiesToJson properties))]) ++
      itemsToJson items ++
      Json.memberIf "minItems" minItems .ofNat ++
      Json.memberIf "maxItems" maxItems .ofNat

def propertiesToJson : List (String × Schema) → List (String × Json)
  | [] => []
  | (name, s) :: rest => (name, toJson s) :: propertiesToJson rest

def itemsToJson : Option Schema → List (String × Json)
  | none => []
  | some s => [("items", toJson s)]

end

/-- The names of the members of a schema. -/
def memberNames : List String :=
  ["type", "required", "properties", "items", "minItems", "maxItems"]

/-- Decodes a schema that nests at most `depth` schemas. -/
def decodeNested : (depth : Nat) → Json.Decoder Schema
  | 0, _ => none
  | depth + 1, d => do
    let r ← d.record? memberNames
    return {
      type := ← r.nullable "type" (Json.Decoder.name SchemaType.ofName?)
      required := ← r.optional "required" [] (Json.Decoder.list Json.Decoder.string)
      properties := ← r.optional "properties" [] (Json.Decoder.map (decodeNested depth))
      items := ← r.nullable "items" (decodeNested depth)
      minItems := ← r.nullable "minItems" Json.Decoder.nat
      maxItems := ← r.nullable "maxItems" Json.Decoder.nat }

/-- Decodes a schema. -/
def decode : Json.Decoder Schema := fun d => decodeNested d.nesting d

end Schema

end SlideDeck
