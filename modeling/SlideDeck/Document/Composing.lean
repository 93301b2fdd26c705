import SlideDeck.Blueprint.Basic
import SlideDeck.Catalogue.Basic
import SlideDeck.Document.Basic
import SlideDeck.Image.Format
import SlideDeck.Render.Page

/-! # Composing documents

A blueprint becomes a document with one page for each slide. Faults of the blueprint
abort the composition before any page is rendered; a fault in a page only turns that
page into the failure notice. A slide without a snapshot takes the component of its id
from the catalogue.
-/

namespace SlideDeck

/-- Why a blueprint cannot be composed. -/
inductive CompositionError
  | blueprint (fault : BlueprintError)
  | unresolved (position : Nat) (componentId : String)
deriving DecidableEq, Repr

/-- The message of an error. -/
def CompositionError.message : CompositionError → String
  | .blueprint fault => fault.message
  | .unresolved position componentId =>
    s!"Component {componentId} at position {position} has no snapshot and is not registered"

/-- The format of a logo, when its bytes can be read and start like an image. -/
def Logo.format? (logo : Logo) : Option ImageFormat := logo.bytes?.bind ImageFormat.ofFile?

/-- Where the logo of a theme is stamped, when it is an image of a known format. -/
def Theme.logoFrame? (t : Theme) : Option Frame :=
  (t.logo.bind Logo.format?).map fun _ => logoFrame

namespace BlueprintEntry

/-- The snapshot that a slide is rendered from. -/
def resolve (e : BlueprintEntry) (k : Catalogue) : Except CompositionError Snapshot :=
  match e.snapshot with
  | some s => .ok s
  | none =>
    match k.find? e.componentId with
    | some c => .ok (Snapshot.of c)
    | none => .error (.unresolved e.position e.componentId)

/-- What a slide is rendered from. -/
def pageSpec (e : BlueprintEntry) (s : Snapshot) : PageSpec where
  position := e.position
  componentId := e.componentId
  program := s.renderProgram
  schema := s.dataSchema
  engineMinVersion := s.engineMinVersion
  data := e.data

end BlueprintEntry

/-- The page of a specification with the logo of the theme. -/
def PageSpec.compose (spec : PageSpec) (limits : ExecutionLimits) (theme : Theme) : Page :=
  { spec.render limits theme with logo := theme.logoFrame? }

namespace Blueprint

/-- The specifications of the pages of some slides; the first slide that cannot be
resolved is the error. -/
def pageSpecs (k : Catalogue) : List BlueprintEntry → Except CompositionError (List PageSpec)
  | [] => .ok []
  | e :: rest => do
    let s ← e.resolve k
    let specs ← pageSpecs k rest
    return e.pageSpec s :: specs

/-- What the hash of a document is taken over. -/
def manifest (theme : Theme) (pages : List Page) : Json :=
  Json.ofMembers [
    ("engine", .string Version.engine.text),
    ("theme", theme.toJson),
    ("pages", .array (pages.map fun p => Json.ofMembers [
      ("position", .ofNat p.position), ("componentId", .string p.componentId),
      ("renderKey", .string p.renderKey)]))]

/-- Composes the document of a blueprint. -/
def compose (b : Blueprint) (k : Catalogue) (limits : ExecutionLimits) (theme : Theme)
    (title : String) : Except CompositionError Document :=
  match b.check with
  | .error fault => .error (.blueprint fault)
  | .ok () => do
    let specs ← pageSpecs k b.sorted.entries
    let pages := specs.map fun spec => spec.compose limits theme
    return {
      title := title
      canvas := Canvas.slide
      theme := theme
      pages := pages
      manifestHash := manifestHash (manifest theme pages) }

end Blueprint

end SlideDeck
