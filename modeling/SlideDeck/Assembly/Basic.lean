import SlideDeck.Blueprint.Basic
import SlideDeck.Content.Proposal

/-! # Assemblies

Assembly turns content into a blueprint, from proposals or by rules alone. Decisions
that fall short of what was asked for leave a warning; only what makes a deck
impossible is an error.
-/

namespace SlideDeck

/-- Why no deck can be assembled. -/
inductive AssemblyError
  | noComponents
  | noContent
  | noCover
  | noNarrative
deriving DecidableEq, Repr

/-- The message of an error. -/
def AssemblyError.message : AssemblyError → String
  | .noComponents => "No components available"
  | .noContent => "Content has no sections"
  | .noCover => "No TITLE component tagged `cover` is available"
  | .noNarrative => "No NARRATIVE component accepts a title and content payload"

/-- What a blueprint was assembled from. -/
inductive AssemblyStrategy
  | mapped
  | ruleBased
deriving DecidableEq, Repr

/-- The name of a strategy. -/
def AssemblyStrategy.name : AssemblyStrategy → String
  | .mapped => "mapped"
  | .ruleBased => "rule_based"

/-- A decision that falls short of what was asked for. -/
inductive AssemblyWarning
  | parserFallback (reason : String)
  | mapperFallback (reason : String)
  | slideCountOutOfBand (target actual : Nat)
  | unknownComponent (position : Nat) (componentId : String)
  | repairedEntry (position : Nat) (componentId : String) (dropped : List String)
  | replacedEntry (position : Nat) (componentId reason : String)
  | sectionFallback (title : String)
  | coverFallback
  | repetition (componentId : String)
  | noClosing
  | restoredSection (title : String)
deriving DecidableEq, Repr

/-- How often a component may follow itself before another is preferred. -/
def maxRepeats : Nat := 2

namespace AssemblyWarning

/-- The message of a warning. -/
def message : AssemblyWarning → String
  | .parserFallback reason => s!"parser unavailable, used degraded parse: {reason}"
  | .mapperFallback reason => s!"mapper output not used: {reason}"
  | .slideCountOutOfBand target actual =>
    s!"{actual} slides is outside the tolerance of the target {target}"
  | .unknownComponent position id => s!"position {position}: unknown or private component {id}"
  | .repairedEntry position id dropped =>
    let fields := ", ".intercalate dropped
    s!"position {position}: dropped {fields} from {id}"
  | .replacedEntry position id reason =>
    s!"position {position}: replaced {id} with narrative fallback ({reason})"
  | .sectionFallback title =>
    s!"section '{title}' matched no component, used narrative fallback"
  | .coverFallback => "no cover component accepted the deck title"
  | .repetition id => s!"{id} used more than {maxRepeats} times in a row"
  | .noClosing => "no CLOSING component available"
  | .restoredSection title =>
    s!"mapping omitted protected section '{title}', restored as narrative"

/-- The JSON form of a warning. -/
def toJson : AssemblyWarning → Json
  | .parserFallback reason =>
    Json.ofMembers [("kind", .string "parser_fallback"), ("reason", .string reason)]
  | .mapperFallback reason =>
    Json.ofMembers [("kind", .string "mapper_fallback"), ("reason", .string reason)]
  | .slideCountOutOfBand target actual =>
    Json.ofMembers [("kind", .string "slide_count_out_of_band"), ("target", .ofNat target),
      ("actual", .ofNat actual)]
  | .unknownComponent position id =>
    Json.ofMembers [("kind", .string "unknown_component"), ("position", .ofNat position),
      ("component_id", .string id)]
  | .repairedEntry position id dropped =>
    Json.ofMembers [("kind", .string "repaired_entry"), ("position", .ofNat position),
      ("component_id", .string id), ("dropped", .ofStrings dropped)]
  | .replacedEntry position id reason =>
    Json.ofMembers [("kind", .string "replaced_entry"), ("position", .ofNat position),
      ("component_id", .string id), ("reason", .string reason)]
  | .sectionFallback title =>
    Json.ofMembers [("kind", .string "section_fallback"), ("section", .string title)]
  | .coverFallback => Json.ofMembers [("kind", .string "cover_fallback")]
  | .repetition id =>
    Json.ofMembers [("kind", .string "repetition"), ("component_id", .string id)]
  | .noClosing => Json.ofMembers [("kind", .string "no_closing")]
  | .restoredSection title =>
    Json.ofMembers [("kind", .string "restored_section"), ("section", .string title)]

end AssemblyWarning

/-- A blueprint with the way it came about. -/
structure Assembly where
  blueprint : Blueprint
  strategy : AssemblyStrategy
  warnings : List AssemblyWarning

/-- The categories that types of sections are matched against, where they are not the
usual ones. The last route of a type counts. -/
structure SelectionTable where
  routes : List (SectionType × Category) := []

namespace SelectionTable

/-- Routes a type of sections to a category. -/
def route (t : SelectionTable) (type : SectionType) (category : Category) : SelectionTable :=
  ⟨(type, category) :: t.routes⟩

/-- The category of a type of sections. -/
def category (t : SelectionTable) (type : SectionType) : Category :=
  (t.routes.lookup type).getD type.category

end SelectionTable

/-! ## Slide counts

A target is a word of 64 bits, and so are its multiples: what does not fit a word is cut
off. `SlideDeck.Assembly.Checked` has the engine that is built to stop there.
-/

/-- The product of two words, as far as it fits a word. -/
def wordProduct (a b : Nat) : Nat := a * b % UInt64.size

/-- The most slides that are within the tolerance of a target: six fifths of it,
rounded up. -/
def slideUpperBound (target : Nat) : Nat := (wordProduct target 120 + 99) / 100

/-- The fewest slides that are within the tolerance of a target: four fifths of it,
rounded down. -/
def slideLowerBound (target : Nat) : Nat := wordProduct target 80 / 100

/-- The warning of a deck that is outside the tolerance. -/
def slideCountWarning (target : Option Nat) (actual : Nat) : List AssemblyWarning :=
  match target with
  | none => []
  | some target =>
    if slideUpperBound target < actual ∨ actual < slideLowerBound target then
      [.slideCountOutOfBand target actual]
    else []

end SlideDeck
