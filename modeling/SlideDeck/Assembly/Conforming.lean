import SlideDeck.Assembly.Basic
import SlideDeck.Binding.Basic
import SlideDeck.Schema.Validation

/-! # Payloads that conform

Every slide of an assembly has a payload that passes the strict validation of its
component. A payload that only departs from the shape of members that are not
required conforms once these are dropped.
-/

namespace SlideDeck

/-- What becomes of a payload that a component is to show. -/
inductive Conformed
  | valid (data : Json)
  | repaired (data : Json) (dropped : List String)
  | invalid (reason : String)

namespace Conformed

/-- The payload that conforms. -/
def data? : Conformed → Option Json
  | .valid data | .repaired data _ => some data
  | .invalid _ => none

end Conformed

namespace Component

/-- Validates a payload and drops the members that it can do without. -/
def conform (c : Component) (data : Json) : Conformed :=
  let report := c.dataSchema.validate .strict data
  if report.valid then .valid data
  else
    let dropped := report.shapeFields
    if !report.missingFields.isEmpty || dropped.isEmpty ||
        dropped.any c.dataSchema.isRequired then
      .invalid report.summary
    else
      match data with
      | .object members =>
        let repaired := Json.object (members.filter fun m => !dropped.contains m.1)
        let second := c.dataSchema.validate .strict repaired
        if second.valid then .repaired repaired dropped else .invalid second.summary
      | _ => .invalid report.summary

/-- A cover is a title component with the tag for it. -/
def isCover (c : Component) : Bool := c.category == .title && c.hasTag "cover"

/-- A cover that shows figures. -/
def isStatsCover (c : Component) : Bool := c.hasTag "metrics" || c.hasTag "stats"

end Component

mutual

/-- The number of leaves of a payload that are not empty. -/
def Json.filledLeaves : Json → Nat
  | .null => 0
  | .string s => if Text.isBlankText s then 0 else 1
  | .array items => Json.filledLeavesOfItems items
  | .object members => Json.filledLeavesOfMembers members
  | .bool _ | .number _ => 1

def Json.filledLeavesOfItems : List Json → Nat
  | [] => 0
  | j :: rest => j.filledLeaves + Json.filledLeavesOfItems rest

def Json.filledLeavesOfMembers : List (String × Json) → Nat
  | [] => 0
  | (_, j) :: rest => j.filledLeaves + Json.filledLeavesOfMembers rest

end

/-- A component that can show some material, with the payload. -/
structure Candidate where
  component : Component
  data : Json
  bound : Nat
  affinity : Bool

namespace Candidate

/-- What a component makes of some material. -/
def of? (m : Material) (affinityTag : String) (c : Component) : Option Candidate :=
  (c.conform (Binding.payload c.dataSchema m)).data?.map fun data =>
    ⟨c, data, data.filledLeaves, c.hasTag affinityTag⟩

/-- True comes before false. -/
def firstTrue (a b : Bool) : Ordering := compare b.toNat a.toNat

/-- The order of preference: what shows most, then what has the tag, then what is used
most, then by id. -/
def isPreferred (a b : Candidate) : Bool :=
  ((compare b.bound a.bound).then <| (firstTrue a.affinity b.affinity).then <|
    (compare b.component.popularity a.component.popularity).then <|
      compare a.component.id b.component.id).isLE

/-- The candidates among some components, best first. -/
def ranked (pool : List Component) (m : Material) (affinityTag : String) : List Candidate :=
  (pool.filterMap (of? m affinityTag)).mergeSort isPreferred

end Candidate

/-- What every assembly relies on: the public components, and the one that can show any
section as text. -/
structure Anchors where
  usable : List Component
  narrative : Component

namespace Anchors

/-- The order of preference among the components for text. -/
def isBetterNarrative (a b : Component) : Bool :=
  ((Candidate.firstTrue (a.hasTag "text") (b.hasTag "text")).then <|
    (compare b.popularity a.popularity).then (compare a.id b.id)).isLE

/-- The components that can show a title and a text. -/
def narratives (usable : List Component) : List Component :=
  (usable.filter fun c =>
    c.category == .narrative && c.dataSchema.accepts (Binding.narrative "Title" "Content" []))
      |>.mergeSort isBetterNarrative

/-- The anchors of an assembly, or the first thing that is missing. -/
def find (content : Content) (components : List Component) : Except AssemblyError Anchors :=
  let usable := components.filter (·.isPublic)
  if usable.isEmpty then .error .noComponents
  else if content.sections.isEmpty then .error .noContent
  else if !usable.any Component.isCover then .error .noCover
  else
    match narratives usable with
    | [] => .error .noNarrative
    | narrative :: _ => .ok ⟨usable, narrative⟩

/-- The payload of the component for text, without the items if it cannot show them. -/
def textPayload (a : Anchors) (title content : String) (items : List String) : Json :=
  ((a.narrative.conform (Binding.narrative title content items)).data?).getD
    (Binding.narrative title content [])

/-- The components of a category that are not retired. -/
def pool (a : Anchors) (category : Category) : List Component :=
  a.usable.filter fun c => c.category == category && !c.deprecated

/-- An id is the one of a closing component. -/
def isClosing (a : Anchors) (id : String) : Bool :=
  a.usable.any fun c => c.id == id && c.category == .closing

end Anchors

end SlideDeck
