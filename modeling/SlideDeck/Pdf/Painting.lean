import SlideDeck.Pdf.Operator
import SlideDeck.Pdf.Wrapping

/-! # Painting of pages

Drawings are measured in inches from the upper left corner, pages in points from the
lower left one. Each operation of a drawing becomes a group of operators of its own,
so that no colour or width carries over to the next.
-/

namespace SlideDeck.Pdf

/-- The points of an inch. -/
def pointsPerInch : Float := 72

/-- The distance of two baselines as a multiple of the font size. -/
def lineSpacing : Float := 1.2

/-- The distance of the control points of a quarter of a circle, as a part of its
radius. -/
def quarterArc : Float := 0.5522848

/-- A horizontal place in points. -/
def across (inches : Float) : Float := inches * pointsPerInch

/-- A vertical place in points on a page of a given height. -/
def upward (height inches : Float) : Float := height - inches * pointsPerInch

/-- A group of operators that leaves the state of the page as it was. -/
def group (ops : List Operator) : List Operator := .save :: ops ++ [.restore]

/-- The page filled with its background. -/
def paintBackground (width height : Float) (c : Color) : List Operator :=
  group [.fillColor c, .rectangle 0 0 width height, .fill]

/-! ## Shapes -/

/-- The path of a rectangle with round corners. -/
def roundedPath (left top width height : Float) : List Operator :=
  let bottom := top - height
  let right := left + width
  let r := Binary64.least width height * 0.15
  let k := r * quarterArc
  [.moveTo (left + r) bottom,
    .lineTo (right - r) bottom,
    .curveTo (right - r + k) bottom right (bottom + r - k) right (bottom + r),
    .lineTo right (top - r),
    .curveTo right (top - r + k) (right - r + k) top (right - r) top,
    .lineTo (left + r) top,
    .curveTo (left + r - k) top left (top - r + k) left (top - r),
    .lineTo left (bottom + r),
    .curveTo left (bottom + r - k) (left + r - k) bottom (left + r) bottom,
    .closePath]

/-- The path of an ellipse. -/
def ellipsePath (left top width height : Float) : List Operator :=
  let rx := width / 2
  let ry := height / 2
  let cx := left + rx
  let cy := top - height + ry
  let kx := rx * quarterArc
  let ky := ry * quarterArc
  [.moveTo (cx + rx) cy,
    .curveTo (cx + rx) (cy + ky) (cx + kx) (cy + ry) cx (cy + ry),
    .curveTo (cx - kx) (cy + ry) (cx - rx) (cy + ky) (cx - rx) cy,
    .curveTo (cx - rx) (cy - ky) (cx - kx) (cy - ry) cx (cy - ry),
    .curveTo (cx + kx) (cy - ry) (cx + rx) (cy - ky) (cx + rx) cy,
    .closePath]

/-- The path of a shape by its upper left corner and its extents. -/
def shapePath (kind : ShapeKind) (left top width height : Float) : List Operator :=
  match kind with
  | .rect => [.rectangle left (top - height) width height]
  | .roundedRect => roundedPath left top width height
  | .ellipse => ellipsePath left top width height
  | .line => [.moveTo left top, .lineTo (left + width) (top - height)]

/-- The colour that fills a shape. A line has nothing to fill. -/
def shapeFill (s : Shape) : Option Color :=
  match s.kind with
  | .line => none
  | _ => s.fill

/-- The colour of an outline. A line without one is drawn in its fill colour. -/
def shapeStroke (s : Shape) : Option Color :=
  match s.kind with
  | .line => s.stroke <|> s.fill
  | _ => s.stroke

/-- The operator that paints a path with the colours that there are. -/
def paintOperator (fill stroke : Option Color) : Operator :=
  match fill, stroke with
  | some _, some _ => .fillAndStroke
  | some _, none => .fill
  | none, some _ => .stroke
  | none, none => .endPath

/-- The colour operators of a shape. -/
def shapeColors (fill stroke : Option Color) (strokeWidth : Float) : List Operator :=
  (match fill with
    | some c => [.fillColor c]
    | none => []) ++
  match stroke with
    | some c => [.strokeColor c, .lineWidth strokeWidth]
    | none => []

/-- Paints a shape: its path, the colours, and the operator that paints. -/
def paintShape (height : Float) (s : Shape) : List Operator :=
  let fill := shapeFill s
  let stroke := shapeStroke s
  shapePath s.kind (across s.frame.x) (upward height s.frame.y)
      (s.frame.w * pointsPerInch) (s.frame.h * pointsPerInch) ++
    shapeColors fill stroke s.strokeWidth ++ [paintOperator fill stroke]

/-! ## Connectors -/

/-- A filled triangle at the tip of a line that points away from its tail. A line
without a length has no direction and no triangle. -/
def arrowHead (tail tip : Point) (width : Float) : List Operator :=
  let dx := tip.x - tail.x
  let dy := tip.y - tail.y
  let length := (dx * dx + dy * dy).sqrt
  if length == 0 then []
  else
    let ux := dx / length
    let uy := dy / length
    let size := Binary64.greatest (width * 4) 6
    let baseX := tip.x - ux * size
    let baseY := tip.y - uy * size
    let px := -uy * size * 0.5
    let py := ux * size * 0.5
    [.moveTo tip.x tip.y, .lineTo (baseX + px) (baseY + py), .lineTo (baseX - px) (baseY - py),
      .closePath, .fill]

/-- The arrow heads of a line. -/
def arrowHeads (head : ArrowHead) (source target : Point) (width : Float) : List Operator :=
  match head with
  | .none => []
  | .end => arrowHead source target width
  | .both => arrowHead source target width ++ arrowHead target source width

/-- Paints a connector: the line and its arrow heads. -/
def paintConnector (height : Float) (c : Connector) : List Operator :=
  let source : Point := ⟨across c.source.x, upward height c.source.y⟩
  let target : Point := ⟨across c.target.x, upward height c.target.y⟩
  [.strokeColor c.color, .fillColor c.color, .lineWidth c.width,
    .moveTo source.x source.y, .lineTo target.x target.y, .stroke] ++
    arrowHeads c.head source target c.width

/-! ## Text -/

/-- The face in which a block is set. -/
def blockFace (b : TextBlock) : FontFace := ⟨.closest b.fontFace, b.bold, b.italic⟩

/-- The average advance of the characters of a block. -/
def blockAdvance (b : TextBlock) : Float := (blockFace b).averageWidth * b.fontSize

/-- The lines of a block. -/
def blockLines (b : TextBlock) : List String :=
  wrap (lineBudget (b.frame.w * pointsPerInch) (blockAdvance b)) b.text

/-- The baseline of the first of a number of lines. -/
def firstBaseline (height : Float) (b : TextBlock) (lineCount : Nat) : Float :=
  let top := upward height b.frame.y
  let frameHeight := b.frame.h * pointsPerInch
  let textHeight := b.fontSize * lineSpacing * Binary64.ofNat lineCount
  match b.valign with
  | .top => top - b.fontSize
  | .middle => top - (frameHeight - textHeight) / 2 - b.fontSize
  | .bottom => top - frameHeight + textHeight - b.fontSize

/-- Where a line of a block starts. -/
def lineStart (b : TextBlock) (line : String) : Float :=
  let left := across b.frame.x
  let width := b.frame.w * pointsPerInch
  let lineWidth := Binary64.ofNat line.length * blockAdvance b
  match b.align with
  | .left => left
  | .center => left + (width - lineWidth) / 2
  | .right => left + width - lineWidth

/-- Shows the lines of a block from a line number on. -/
def showLines (b : TextBlock) (baseline : Float) : (number : Nat) → List String → List Operator
  | _, [] => []
  | number, line :: rest =>
    let y := baseline - b.fontSize * lineSpacing * Binary64.ofNat number
    .textOrigin (lineStart b line) y :: .showText (encodeText line) ::
      showLines b baseline (number + 1) rest

/-- Paints a block of text. -/
def paintText (height : Float) (b : TextBlock) : List Operator :=
  let lines := blockLines b
  [.fillColor b.color, .beginText, .font (blockFace b) b.fontSize] ++
    showLines b (firstBaseline height b lines.length) 0 lines ++ [.endText]

/-! ## Pages -/

/-- Paints one operation of a drawing. -/
def paintOp (height : Float) : DrawOp → List Operator
  | .text b => group (paintText height b)
  | .shape s => group (paintShape height s)
  | .connector c => group (paintConnector height c)

/-- The name under which pages refer to the logo. -/
def logoName : String := "Logo"

/-- The extents of an image in a frame: as great as its aspect allows. -/
def fitExtents (width height aspect : Float) : Float × Float :=
  if 0 < aspect then
    if width / height > aspect then (height * aspect, height) else (width, width / aspect)
  else (width, height)

/-- Paints the logo into a frame, at its right side and its top. -/
def paintLogo (height : Float) (f : Frame) (aspect : Float) : List Operator :=
  let extents := fitExtents (f.w * pointsPerInch) (f.h * pointsPerInch) aspect
  let left := across f.x + (f.w * pointsPerInch - extents.1)
  let bottom := upward height f.y - extents.2
  group [.transform extents.1 0 0 extents.2 left bottom, .drawObject logoName]

/-- The content of a page of the given extents in points, with the aspect of the logo
if there is one. -/
def paintPage (width height : Float) (logoAspect : Option Float) (p : Page) : List Operator :=
  paintBackground width height p.background ++ p.ops.flatMap (paintOp height) ++
    match p.logo, logoAspect with
    | some f, some aspect => paintLogo height f aspect
    | _, _ => []

end SlideDeck.Pdf
