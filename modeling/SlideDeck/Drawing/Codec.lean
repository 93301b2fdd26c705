import SlideDeck.Drawing.Basic
import SlideDeck.Json.Decode

/-! # JSON forms of drawings

Draw operations are objects with their kind in `kind`, pages carry their state in
`status`. Every member is written, also those that are null or have a default.
-/

namespace SlideDeck

open Json (Decoder)

namespace Color

/-- The JSON form of a colour. -/
def toJson (c : Color) : Json := .string c.text

/-- Decodes the text of a colour. -/
def decode : Decoder Color := fun d => (Decoder.string d).bind parse?

end Color

namespace HAlign

/-- The name of an alignment. -/
def name : HAlign → String
  | .left => "left"
  | .center => "center"
  | .right => "right"

/-- The alignment of a name. -/
def ofName? : String → Option HAlign
  | "left" => some .left
  | "center" => some .center
  | "right" => some .right
  | _ => none

end HAlign

namespace VAlign

/-- The name of an alignment. -/
def name : VAlign → String
  | .top => "top"
  | .middle => "middle"
  | .bottom => "bottom"

/-- The alignment of a name. -/
def ofName? : String → Option VAlign
  | "top" => some .top
  | "middle" => some .middle
  | "bottom" => some .bottom
  | _ => none

end VAlign

namespace ShapeKind

/-- The name of an outline. -/
def name : ShapeKind → String
  | .rect => "rect"
  | .roundedRect => "rounded_rect"
  | .ellipse => "ellipse"
  | .line => "line"

/-- The outline of a name. -/
def ofName? : String → Option ShapeKind
  | "rect" => some .rect
  | "rounded_rect" => some .roundedRect
  | "ellipse" => some .ellipse
  | "line" => some .line
  | _ => none

end ShapeKind

namespace ArrowHead

/-- The name of a choice of arrow heads. -/
def name : ArrowHead → String
  | .none => "none"
  | .end => "end"
  | .both => "both"

/-- The choice of arrow heads of a name. -/
def ofName? : String → Option ArrowHead
  | "none" => some .none
  | "end" => some .end
  | "both" => some .both
  | _ => Option.none

end ArrowHead

namespace Canvas

/-- The JSON form of a canvas. -/
def toJson (c : Canvas) : Json :=
  Json.ofMembers [("width", Json.ofFloat c.width), ("height", Json.ofFloat c.height)]

/-- Decodes a canvas. -/
def decode : Decoder Canvas := fun d => do
  let r ← d.record? ["width", "height"]
  return ⟨← r.required "width" Decoder.float, ← r.required "height" Decoder.float⟩

end Canvas

namespace Frame

/-- The JSON form of a frame. -/
def toJson (f : Frame) : Json :=
  Json.ofMembers [("x", Json.ofFloat f.x), ("y", Json.ofFloat f.y),
    ("w", Json.ofFloat f.w), ("h", Json.ofFloat f.h)]

/-- Decodes a frame. -/
def decode : Decoder Frame := fun d => do
  let r ← d.record? ["x", "y", "w", "h"]
  return {
    x := ← r.required "x" Decoder.float
    y := ← r.required "y" Decoder.float
    w := ← r.required "w" Decoder.float
    h := ← r.required "h" Decoder.float }

end Frame

namespace Point

/-- The JSON form of a point. -/
def toJson (p : Point) : Json :=
  Json.ofMembers [("x", Json.ofFloat p.x), ("y", Json.ofFloat p.y)]

/-- Decodes a point. -/
def decode : Decoder Point := fun d => do
  let r ← d.record? ["x", "y"]
  return ⟨← r.required "x" Decoder.float, ← r.required "y" Decoder.float⟩

end Point

/-- The members of a text block. -/
def TextBlock.members (t : TextBlock) : List (String × Json) := [
  ("frame", t.frame.toJson), ("text", .string t.text), ("font_face", .string t.fontFace),
  ("font_size", Json.ofFloat t.fontSize), ("bold", .bool t.bold), ("italic", .bool t.italic),
  ("color", t.color.toJson), ("align", .string t.align.name), ("valign", .string t.valign.name)]

/-- Decodes a text block. -/
def TextBlock.decode : Decoder TextBlock := fun d => do
  let r ← d.record? ["frame", "text", "font_face", "font_size", "bold", "italic", "color",
    "align", "valign"]
  return {
    frame := ← r.required "frame" Frame.decode
    text := ← r.required "text" Decoder.string
    fontFace := ← r.required "font_face" Decoder.string
    fontSize := ← r.required "font_size" Decoder.float
    bold := ← r.required "bold" Decoder.bool
    italic := ← r.required "italic" Decoder.bool
    color := ← r.required "color" Color.decode
    align := ← r.required "align" (Decoder.looseName HAlign.ofName?)
    valign := ← r.required "valign" (Decoder.looseName VAlign.ofName?) }

/-- The members of a shape. -/
def Shape.members (s : Shape) : List (String × Json) := [
  ("shape", .string s.kind.name), ("frame", s.frame.toJson),
  ("fill", Json.ofOption s.fill Color.toJson), ("stroke", Json.ofOption s.stroke Color.toJson),
  ("stroke_width", Json.ofFloat s.strokeWidth)]

/-- Decodes a shape. -/
def Shape.decode : Decoder Shape := fun d => do
  let r ← d.record? ["shape", "frame", "fill", "stroke", "stroke_width"]
  return {
    kind := ← r.required "shape" (Decoder.looseName ShapeKind.ofName?)
    frame := ← r.required "frame" Frame.decode
    fill := ← r.nullable "fill" Color.decode
    stroke := ← r.nullable "stroke" Color.decode
    strokeWidth := ← r.required "stroke_width" Decoder.float }

/-- The members of a connector. -/
def Connector.members (c : Connector) : List (String × Json) := [
  ("from", c.source.toJson), ("to", c.target.toJson), ("color", c.color.toJson),
  ("width", Json.ofFloat c.width), ("head", .string c.head.name)]

/-- Decodes a connector. -/
def Connector.decode : Decoder Connector := fun d => do
  let r ← d.record? ["from", "to", "color", "width", "head"]
  return {
    source := ← r.required "from" Point.decode
    target := ← r.required "to" Point.decode
    color := ← r.required "color" Color.decode
    width := ← r.required "width" Decoder.float
    head := ← r.required "head" (Decoder.looseName ArrowHead.ofName?) }

namespace DrawOp

/-- The JSON form of a draw operation. -/
def toJson : DrawOp → Json
  | .text t => Json.ofMembers (("kind", .string "text") :: t.members)
  | .shape s => Json.ofMembers (("kind", .string "shape") :: s.members)
  | .connector c => Json.ofMembers (("kind", .string "connector") :: c.members)

/-- Decodes a draw operation by its kind; unknown members have to be readable, too. -/
def decode : Decoder DrawOp := Decoder.whole fun d => do
  let tagged ← d.tagged? "kind"
  match ← Decoder.string tagged.tag with
  | "text" => (TextBlock.decode tagged.content).map .text
  | "shape" => (Shape.decode tagged.content).map .shape
  | "connector" => (Connector.decode tagged.content).map .connector
  | _ => none

end DrawOp

namespace PageStatus

/-- The JSON form of the state of a page. -/
def toJson : PageStatus → Json
  | .rendered => Json.ofMembers [("status", .string "rendered")]
  | .placeholder reason =>
    Json.ofMembers [("status", .string "placeholder"), ("reason", .string reason)]

/-- Decodes the state of a page; unknown members have to be readable, too. There is
nothing to say of a page that is rendered. -/
def decode : Decoder PageStatus := Decoder.whole fun d => do
  let tagged ← d.tagged? "status"
  match ← Decoder.string tagged.tag with
  | "rendered" => (tagged.content.record? []).map fun _ => .rendered
  | "placeholder" => do
    let r ← tagged.content.record? ["reason"]
    return .placeholder (← r.required "reason" Decoder.string)
  | _ => none

end PageStatus

namespace Page

/-- The JSON form of a page; a logo is written only where there is one. -/
def toJson (p : Page) : Json :=
  Json.ofMembers ([
    ("position", .ofNat p.position), ("component_id", .string p.componentId),
    ("background", p.background.toJson), ("ops", .array (p.ops.map DrawOp.toJson)),
    ("status", p.status.toJson), ("render_key", .string p.renderKey)] ++
    Json.memberIf "logo" p.logo Frame.toJson)

/-- Decodes a page. -/
def decode : Decoder Page := fun d => do
  let r ← d.record? ["position", "component_id", "background", "ops", "logo", "status",
    "render_key"]
  return {
    position := ← r.required "position" Decoder.nat
    componentId := ← r.required "component_id" Decoder.string
    background := ← r.required "background" Color.decode
    ops := ← r.required "ops" (Decoder.list DrawOp.decode)
    logo := ← r.nullable "logo" Frame.decode
    status := ← r.required "status" PageStatus.decode
    renderKey := ← r.required "render_key" Decoder.string }

end Page

end SlideDeck
