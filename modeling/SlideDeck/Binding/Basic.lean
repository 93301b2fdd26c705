import SlideDeck.Binding.Label
import SlideDeck.Content.Figure

/-! # Binding of payloads

A payload is bound by a schema: every declared member is offered a value from the
material at hand, by its name and its kind. Nothing is invented. A member for which
there is no material is left out, and validation decides whether the payload will do.
-/

namespace SlideDeck

/-- The material that a payload is made of. -/
structure Material where
  title : String := ""
  content : String := ""
  items : List String := []
  dataPoints : List DataPoint := []
  message : Option String := none

namespace Material

/-- The material of a section. -/
def ofSection (s : Section) : Material where
  title := s.title
  content := s.content
  items := s.items
  dataPoints := s.dataPoints

/-- The material of a cover: the title of the deck and the data points of all
sections. -/
def ofCover (c : Content) : Material where
  title := c.title
  dataPoints := c.dataPoints

/-- The message of a closing slide. -/
def closingMessage : String := "Thank You"

/-- The material of a closing slide. -/
def closing : Material where
  message := some closingMessage

end Material

namespace Binding

/-- A text without outer blanks, unless it is blank. -/
def textValue (text : String) : Option Json :=
  if Text.isBlankText text then none else some (.string (Text.trim text))

/-- A schema declares a member, as a property or as required. -/
def declares (s : Schema) (name : String) : Bool :=
  (s.property? name).isSome || s.isRequired name

/-- A schema requires nothing but some members. -/
def requiresOnly (s : Schema) (names : List String) : Bool :=
  s.required.all fun name => names.contains name

/-- A member of the record of a data point. -/
def dataPointField (p : DataPoint) (name : String) (type : Option SchemaType) : Option Json :=
  match name with
  | "label" => some (.string p.label)
  | "value" =>
    if type = some .number ∨ type = some .integer then p.numericValue?.map Json.ofFloat
    else some (.string p.value)
  | "trend" => p.changeValue?.map Json.ofFloat
  | "change" => p.change.map .string
  | "target" => p.target.map .string
  | _ => none

/-- The record of a data point, if it has all that is required. -/
def dataPointRecord (s : Schema) (p : DataPoint) : Option Json :=
  let members := s.properties.filterMap fun (name, shape) =>
    (dataPointField p name shape.type).map (name, ·)
  if s.required.all fun name => (members.lookup name).isSome then some (.object members)
  else none

/-- The milestone of an item that is labelled with a date. -/
def milestone (item : String) : Option Json :=
  (Label.split? item).map fun (date, event) =>
    Json.ofMembers [("date", .string date), ("event", .string event)]

/-- The record of an item, with a description if the schema declares one. -/
def labelledRecord (s : Schema) (item : String) : Json :=
  match Label.split? item with
  | some (label, description) =>
    if declares s "description" then
      Json.ofMembers [("label", .string label), ("description", .string description)]
    else Json.ofMembers [("label", .string item)]
  | none => Json.ofMembers [("label", .string item)]

/-- The records of an array: milestones, data points or labelled items, whatever the
schema of the items has room for first. -/
def records (s : Schema) (m : Material) : Option (List Json) :=
  if declares s "date" && declares s "event" && requiresOnly s ["date", "event"] then
    some (m.items.filterMap milestone)
  else if declares s "value" && requiresOnly s ["label", "value", "trend", "change", "target"] then
    some (m.dataPoints.filterMap (dataPointRecord s))
  else if declares s "label" && requiresOnly s ["label", "description"] then
    some (m.items.map (labelledRecord s))
  else none

/-- The lists whose items are found by their labels. -/
def keyedLists : List String :=
  ["pros", "cons", "strengths", "weaknesses", "opportunities", "threats"]

/-- The lists that take all items. -/
def plainLists : List String := ["bullets", "items", "steps", "points"]

/-- The items of an array. -/
def arrayItems (name : String) (shape : Schema) (m : Material) : Option (List Json) :=
  if keyedLists.contains name then some ((Label.itemsOf name m.items).map .string)
  else
    match shape.items with
    | none => if plainLists.contains name then some (m.items.map .string) else none
    | some item =>
      match item.type with
      | some .object => records item m
      | some .string | none =>
        if plainLists.contains name then some (m.items.map .string) else none
      | _ => none

/-- An array of items, no more than its schema allows, unless there are none. -/
def arrayValue (name : String) (shape : Schema) (m : Material) : Option Json :=
  (arrayItems name shape m).bind fun items =>
    let kept := shape.maxItems.elim items items.take
    if kept.isEmpty then none else some (.array kept)

/-- The labelled items of one side of a comparison. -/
def group (name : String) (m : Material) : Option Json :=
  match Label.itemsOf name m.items with
  | [] => none
  | items =>
    some (Json.ofMembers [("label", .string (Label.capitalize name)), ("items", .ofStrings items)])

/-- The kinds of values that a text may be bound to. -/
def takesText (shape : Schema) : Bool := shape.type = none ∨ shape.type = some .string

/-- The value that is offered to a member, by its name and its kind. -/
def field (name : String) (shape : Schema) (m : Material) : Option Json :=
  if ["title", "sectionName", "heading"].contains name then textValue m.title
  else if ["content", "body", "context", "description"].contains name && takesText shape then
    textValue m.content
  else if name = "message" then m.message.map .string
  else if ["value", "number"].contains name && takesText shape then
    m.dataPoints.head?.map fun p => .string p.value
  else if name = "label" ∧ takesText shape then
    m.dataPoints.head?.map fun p => .string p.label
  else if name = "comparison" then
    (m.dataPoints.head?.bind (·.change)).map .string
  else if ["before", "after"].contains name && shape.type == some .object then group name m
  else if shape.type = some .array then arrayValue name shape m
  else none

/-- The members that are bound. -/
def members (s : Schema) (m : Material) : List (String × Json) :=
  s.properties.filterMap fun (name, shape) => (field name shape m).map (name, ·)

/-- The payload that a schema and material give. -/
def payload (s : Schema) (m : Material) : Json := .object (members s m)

/-- The number of members that are bound. -/
def boundFields (s : Schema) (m : Material) : Nat := (members s m).length

/-- The payload of a slide of text: a title that is never blank, the content, and the
items if there are any. -/
def narrative (title content : String) (items : List String) : Json :=
  let title := if Text.isBlankText title then "Overview" else Text.trim title
  Json.ofMembers ([("title", .string title), ("content", .string content)] ++
    (if items.isEmpty then [] else [("bullets", .ofStrings items)]))

end Binding

end SlideDeck
