import SlideDeck.Digest.RenderKey
import SlideDeck.Render.Run
import SlideDeck.Schema.Validation
import SlideDeck.Version

/-! # Rendering of pages

A page is rendered from a payload that is checked first: the engine has to be new
enough for the component and the payload must be a record with the required members.
A page that fails shows the failure notice instead, and nothing of what was drawn.
-/

namespace SlideDeck

/-- All that one page is rendered from. -/
structure PageSpec where
  position : Nat
  componentId : String
  program : RenderProgram
  schema : Schema
  engineMinVersion : String
  data : Json

namespace PageSpec

/-- The engine has to be at least the version that the component asks for. -/
def checkEngine (required : String) : Except ExecutionError Unit :=
  match Version.parse? required with
  | none => .error (.invalidVersion required)
  | some least =>
    if Version.engine.precedes least then
      .error (.engineMismatch required Version.engine.text)
    else .ok ()

/-- The payload has to pass a lenient validation. -/
def checkPayload (schema : Schema) (data : Json) : Except ExecutionError Unit :=
  let report := schema.validate .lenient data
  if report.valid then .ok () else .error (.invalidPayload report.summary)

/-- The drawing of a page, or why there is none. -/
def draw (spec : PageSpec) (limits : ExecutionLimits) (theme : Theme) :
    Except ExecutionError (List DrawOp) := do
  checkEngine spec.engineMinVersion
  checkPayload spec.schema spec.data
  spec.program.execute ⟨limits, theme, spec.data⟩

/-- The key of the render of a page. -/
def key (spec : PageSpec) (theme : Theme) : String :=
  renderKey spec.program.toJson spec.data theme.toJson Version.engine.text

/-- The page of a drawing or of a failure. -/
def page (spec : PageSpec) (theme : Theme) (ops : List DrawOp) (status : PageStatus) : Page where
  position := spec.position
  componentId := spec.componentId
  background := theme.colors.background
  ops := ops
  logo := none
  status := status
  renderKey := spec.key theme

/-- Renders a page. There always is one. -/
def render (spec : PageSpec) (limits : ExecutionLimits) (theme : Theme) : Page :=
  match spec.draw limits theme with
  | .ok ops => spec.page theme ops .rendered
  | .error e => spec.page theme (failureMarker theme.fonts.body) (.placeholder e.message)

end PageSpec

end SlideDeck
