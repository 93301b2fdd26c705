import SlideDeck.Component.Basic

/-! # Content of a deck

Content is what a deck is made from: a title and sections, each with a text, bullet
items and data points. Parameters hold the wishes of the caller.
-/

namespace SlideDeck

open Json (Decoder)

/-- What a section is about. -/
inductive SectionType
  | data
  | narrative
  | framework
  | timeline
  | comparison
  | process
deriving DecidableEq, Repr

namespace SectionType

/-- The category of the components that suit a type of sections. -/
def category : SectionType → Category
  | .data => .data
  | .narrative => .narrative
  | .framework => .framework
  | .timeline => .process
  | .comparison => .comparison
  | .process => .process

/-- The tag of the components that are preferred for a type of sections. -/
def affinityTag : SectionType → String
  | .data => "metrics"
  | .narrative => "text"
  | .framework => "framework"
  | .timeline => "timeline"
  | .comparison => "comparison"
  | .process => "steps"

/-- The name of a type of sections. -/
def name : SectionType → String
  | .data => "data"
  | .narrative => "narrative"
  | .framework => "framework"
  | .timeline => "timeline"
  | .comparison => "comparison"
  | .process => "process"

/-- The type of sections of a name. -/
def ofName? : String → Option SectionType
  | "data" => some .data
  | "narrative" => some .narrative
  | "framework" => some .framework
  | "timeline" => some .timeline
  | "comparison" => some .comparison
  | "process" => some .process
  | _ => none

end SectionType

/-- A labelled figure, as it is written, with a change and a target if there are. -/
structure DataPoint where
  label : String
  value : String
  change : Option String := none
  target : Option String := none
deriving DecidableEq, Repr

/-- A section of a deck. Priorities go from one to five. -/
structure Section where
  title : String
  type : SectionType := .narrative
  content : String := ""
  dataPoints : List DataPoint := []
  items : List String := []
  priority : Nat := 3
deriving DecidableEq, Repr

/-- Sections of priority four and five are never left out of a deck. -/
def Section.isProtected (s : Section) : Bool := 4 ≤ s.priority

/-- A title and the sections of a deck. -/
structure Content where
  title : String
  sections : List Section
deriving DecidableEq, Repr

namespace Content

/-- How many characters of a text its stand-in keeps. -/
def excerptLength : Nat := 500

/-- The stand-in for the content of a text that could not be parsed: its beginning
as one section. -/
def standIn (text : String) : Content where
  title := "Presentation"
  sections :=
    [{ title := "Overview", content := String.ofList (text.toList.take excerptLength) }]

/-- The data points of all sections. -/
def dataPoints (c : Content) : List DataPoint := c.sections.flatMap (·.dataPoints)

end Content

/-- The tone of a deck. -/
inductive Tone
  | formal
  | conversational
  | technical
  | executive
deriving DecidableEq, Repr

/-- The listeners of a deck. -/
inductive Audience
  | cSuite
  | team
  | investors
  | clients
  | general
deriving DecidableEq, Repr

/-- The style of a deck. -/
inductive Style
  | dataDriven
  | narrative
  | visualHeavy
  | minimal
deriving DecidableEq, Repr

/-- What a caller asks for. -/
structure Parameters where
  tone : Tone := .formal
  audience : Audience := .general
  style : Style := .dataDriven
  /-- The number of slides to aim at; without one, as many as the content needs. -/
  slideCount : Option Nat := none
  focus : List String := []
deriving DecidableEq, Repr

/-! ## JSON forms -/

namespace DataPoint

/-- The JSON form of a data point; a change and a target are written if there are. -/
def toJson (p : DataPoint) : Json :=
  Json.ofMembers ([("label", .string p.label), ("value", .string p.value)] ++
    Json.memberIf "change" p.change .string ++ Json.memberIf "target" p.target .string)

/-- Decodes a data point. -/
def decode : Decoder DataPoint := fun d => do
  let r ← d.record? ["label", "value", "change", "target"]
  return {
    label := ← r.required "label" Decoder.string
    value := ← r.required "value" Decoder.string
    change := ← r.nullable "change" Decoder.string
    target := ← r.nullable "target" Decoder.string }

end DataPoint

namespace Section

/-- The JSON form of a section. -/
def toJson (s : Section) : Json :=
  Json.ofMembers [
    ("title", .string s.title), ("type", .string s.type.name), ("content", .string s.content),
    ("dataPoints", .array (s.dataPoints.map DataPoint.toJson)), ("items", .ofStrings s.items),
    ("priority", .ofNat s.priority)]

/-- A priority that is any number: the nearest one from one to five. -/
def priorityOf (x : Float) : Nat :=
  min (max 1 (Binary64.toNat (Binary64.roundHalfAway x))) 5

/-- Decodes a section. -/
def decode : Decoder Section := fun d => do
  let r ← d.record? ["title", "type", "content", "dataPoints", "items", "priority"]
  return {
    title := ← r.required "title" Decoder.string
    type := ← r.optional "type" .narrative (Decoder.name SectionType.ofName?)
    content := ← r.optional "content" "" Decoder.string
    dataPoints := ← r.optional "dataPoints" [] (Decoder.list DataPoint.decode)
    items := ← r.optional "items" [] (Decoder.list Decoder.string)
    priority := ← r.optional "priority" 3 fun d => (Decoder.float d).map priorityOf }

end Section

namespace Content

/-- The JSON form of content. -/
def toJson (c : Content) : Json :=
  Json.ofMembers [
    ("title", .string c.title), ("sections", .array (c.sections.map Section.toJson))]

/-- Decodes content. -/
def decode : Decoder Content := fun d => do
  let r ← d.record? ["title", "sections"]
  return {
    title := ← r.required "title" Decoder.string
    sections := ← r.optional "sections" [] (Decoder.list Section.decode) }

end Content

namespace Tone

/-- The name of a tone. -/
def name : Tone → String
  | .formal => "formal"
  | .conversational => "conversational"
  | .technical => "technical"
  | .executive => "executive"

/-- The tone of a name. -/
def ofName? : String → Option Tone
  | "formal" => some .formal
  | "conversational" => some .conversational
  | "technical" => some .technical
  | "executive" => some .executive
  | _ => none

end Tone

namespace Audience

/-- The name of the listeners. -/
def name : Audience → String
  | .cSuite => "c-suite"
  | .team => "team"
  | .investors => "investors"
  | .clients => "clients"
  | .general => "general"

/-- The listeners of a name. -/
def ofName? : String → Option Audience
  | "c-suite" => some .cSuite
  | "team" => some .team
  | "investors" => some .investors
  | "clients" => some .clients
  | "general" => some .general
  | _ => none

end Audience

namespace Style

/-- The name of a style. -/
def name : Style → String
  | .dataDriven => "data-driven"
  | .narrative => "narrative"
  | .visualHeavy => "visual-heavy"
  | .minimal => "minimal"

/-- The style of a name. -/
def ofName? : String → Option Style
  | "data-driven" => some .dataDriven
  | "narrative" => some .narrative
  | "visual-heavy" => some .visualHeavy
  | "minimal" => some .minimal
  | _ => none

end Style

namespace Parameters

/-- The JSON form of parameters. -/
def toJson (p : Parameters) : Json :=
  Json.ofMembers [
    ("tone", .string p.tone.name), ("audience", .string p.audience.name),
    ("style", .string p.style.name), ("slideCount", Json.ofOption p.slideCount .ofNat),
    ("focus", .ofStrings p.focus)]

/-- Decodes parameters. -/
def decode : Decoder Parameters := fun d => do
  let r ← d.record? ["tone", "audience", "style", "slideCount", "focus"]
  return {
    tone := ← r.optional "tone" .formal (Decoder.name Tone.ofName?)
    audience := ← r.optional "audience" .general (Decoder.name Audience.ofName?)
    style := ← r.optional "style" .dataDriven (Decoder.name Style.ofName?)
    slideCount := ← r.nullable "slideCount" Decoder.nat
    focus := ← r.optional "focus" [] (Decoder.list Decoder.string) }

end Parameters

end SlideDeck
