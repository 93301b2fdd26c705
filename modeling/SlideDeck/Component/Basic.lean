import SlideDeck.Program.Codec
import SlideDeck.Schema.Basic
import SlideDeck.Text.Order
import SlideDeck.Version

/-! # Components

A component is a versioned template of one slide: the schema of its payload and the
program that draws it, filed under a category. Core components belong to the
library; user components are added beside them.
-/

namespace SlideDeck

open Json (Decoder)

/-- What a slide is for. -/
inductive Category
  | title
  | data
  | process
  | framework
  | comparison
  | narrative
  | closing
  | visual
  | table
deriving DecidableEq, Repr

namespace Category

/-- All categories in their order. -/
def all : List Category :=
  [.title, .data, .process, .framework, .comparison, .narrative, .closing, .visual, .table]

/-- The place of a category in the order. -/
def index : Category → Nat
  | .title => 0
  | .data => 1
  | .process => 2
  | .framework => 3
  | .comparison => 4
  | .narrative => 5
  | .closing => 6
  | .visual => 7
  | .table => 8

/-- The name of a category. -/
def name : Category → String
  | .title => "TITLE"
  | .data => "DATA"
  | .process => "PROCESS"
  | .framework => "FRAMEWORK"
  | .comparison => "COMPARISON"
  | .narrative => "NARRATIVE"
  | .closing => "CLOSING"
  | .visual => "VISUAL"
  | .table => "TABLE"

/-- The category of a name, spelt exactly. -/
def ofName? (text : String) : Option Category := all.find? fun c => c.name == text

/-- The category of a name in any letter case of ASCII, with blanks around it. -/
def parse? (text : String) : Option Category :=
  let letters := (Text.trimChars text.toList).map Char.toUpper
  all.find? fun c => c.name.toList == letters

end Category

/-- Where a component comes from. -/
inductive Origin
  | core
  | user
deriving DecidableEq, Repr

namespace Origin

/-- The name of an origin. -/
def name : Origin → String
  | .core => "CORE"
  | .user => "USER"

/-- The origin of a name. -/
def ofName? : String → Option Origin
  | "CORE" => some .core
  | "USER" => some .user
  | _ => none

end Origin

/-- A versioned template of one slide. -/
structure Component where
  id : String
  name : String
  description : String := ""
  version : Version
  engineMinVersion : String := Version.leastEngine
  category : Category
  /-- The tags in ascending order, each of them once. -/
  tags : List String := []
  dataSchema : Schema
  renderProgram : RenderProgram
  useCases : List String := []
  bestFor : String := ""
  isPublic : Bool := true
  origin : Origin := .user
  popularity : Nat := 0
  deprecated : Bool := false
  supersededBy : Option String := none

namespace Component

/-- The component has a tag. -/
def hasTag (c : Component) (tag : String) : Bool := c.tags.contains tag

/-- Name and category, which tell the components of one origin apart. -/
def naturalKey (c : Component) : String × Category := (c.name, c.category)

/-- The first required member of the payload that the program does not read. -/
def unreadField? (c : Component) : Option String :=
  let read := c.renderProgram.dataKeys
  c.dataSchema.required.find? fun field => !read.contains field

end Component

/-- A component that requires what it does not read. -/
structure ContractError where
  id : String
  field : String
deriving DecidableEq, Repr

/-- The message of the error. -/
def ContractError.message (e : ContractError) : String :=
  "Component " ++ e.id ++ " requires `" ++ e.field ++ "` but its render program never reads it"

/-- Every member that a component requires has to be read by its program. -/
def Component.checkContract (c : Component) : Except ContractError Unit :=
  match c.unreadField? with
  | some field => .error ⟨c.id, field⟩
  | none => .ok ()

/-! ## JSON forms -/

/-- Decodes a version. -/
def Version.decode : Decoder Version := fun d => (Decoder.string d).bind Version.parse?

namespace Component

/-- The JSON form of a component; every member is written. -/
def toJson (c : Component) : Json :=
  Json.ofMembers [
    ("id", .string c.id), ("name", .string c.name), ("description", .string c.description),
    ("version", .string c.version.text), ("engineMinVersion", .string c.engineMinVersion),
    ("category", .string c.category.name), ("tags", .ofStrings c.tags),
    ("dataSchema", c.dataSchema.toJson), ("renderProgram", c.renderProgram.toJson),
    ("useCases", .ofStrings c.useCases), ("bestFor", .string c.bestFor),
    ("isPublic", .bool c.isPublic), ("origin", .string c.origin.name),
    ("popularity", .ofNat c.popularity), ("deprecated", .bool c.deprecated),
    ("supersededBy", Json.ofOption c.supersededBy .string)]

/-- Decodes a component. -/
def decode : Decoder Component := fun d => do
  let r ← d.record? ["id", "name", "description", "version", "engineMinVersion", "category",
    "tags", "dataSchema", "renderProgram", "useCases", "bestFor", "isPublic", "origin",
    "popularity", "deprecated", "supersededBy"]
  return {
    id := ← r.required "id" Decoder.string
    name := ← r.required "name" Decoder.string
    description := ← r.optional "description" "" Decoder.string
    version := ← r.required "version" Version.decode
    engineMinVersion := ← r.optional "engineMinVersion" Version.leastEngine Decoder.string
    category := ← r.required "category" (Decoder.name Category.ofName?)
    tags := Text.sortedSet (← r.optional "tags" [] (Decoder.list Decoder.string))
    dataSchema := ← r.required "dataSchema" Schema.decode
    renderProgram := ← r.required "renderProgram" RenderProgram.decode
    useCases := ← r.optional "useCases" [] (Decoder.list Decoder.string)
    bestFor := ← r.optional "bestFor" "" Decoder.string
    isPublic := ← r.optional "isPublic" true Decoder.bool
    origin := ← r.optional "origin" .user (Decoder.name Origin.ofName?)
    popularity := ← r.optional "popularity" 0 Decoder.nat
    deprecated := ← r.optional "deprecated" false Decoder.bool
    supersededBy := ← r.nullable "supersededBy" Decoder.string }

end Component

end SlideDeck
