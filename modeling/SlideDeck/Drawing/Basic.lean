import SlideDeck.Numeric.Decimal
import SlideDeck.Text.Blank
import SlideDeck.Text.Digit

/-! # Drawings

A drawing is a list of text blocks, shapes and connectors on a canvas measured in
inches from its upper left corner. A page is one rendered slide: a drawing with a
background, or the notice that stands in for a slide that failed.
-/

namespace SlideDeck

/-- The size of a slide. -/
structure Canvas where
  width : Float
  height : Float

/-- Every slide is ten inches wide and seven and a half high. -/
def Canvas.slide : Canvas := ⟨10, 7.5⟩

/-- A colour by its channels. -/
structure Color where
  red : UInt8
  green : UInt8
  blue : UInt8
deriving DecidableEq, Repr

namespace Color

/-- The channel of two hexadecimal digits. -/
def channel? (high low : Char) : Option UInt8 := do
  let high ← Text.hexValue? high
  let low ← Text.hexValue? low
  return UInt8.ofNat (16 * high + low)

/-- Reads six hexadecimal digits behind any number of number signs, with blanks
around them. -/
def parse? (text : String) : Option Color :=
  match (Text.trimChars text.toList).dropWhile (· == '#') with
  | [a, b, c, d, e, f] => do
    return ⟨← channel? a b, ← channel? c d, ← channel? e f⟩
  | _ => none

/-- A hexadecimal digit in upper case. -/
def hexDigit (n : Nat) : Char :=
  if n < 10 then Char.ofNat ('0'.toNat + n) else Char.ofNat ('A'.toNat + n - 10)

/-- The two hexadecimal digits of a channel. -/
def channelDigits (v : UInt8) : List Char := [hexDigit (v.toNat / 16), hexDigit (v.toNat % 16)]

/-- The six upper-case hexadecimal digits of a colour. -/
def text (c : Color) : String :=
  String.ofList (channelDigits c.red ++ channelDigits c.green ++ channelDigits c.blue)

/-- A channel as a part of one. -/
def part (v : UInt8) : Float := Float.ofNat v.toNat / 255

end Color

/-- A rectangle by its upper left corner and its extents. -/
structure Frame where
  x : Float
  y : Float
  w : Float
  h : Float

/-- A point of the canvas. -/
structure Point where
  x : Float
  y : Float

/-- How lines of text stand between the sides of their frame. -/
inductive HAlign
  | left
  | center
  | right
deriving DecidableEq, Repr

/-- How lines of text stand between the top and the bottom of their frame. -/
inductive VAlign
  | top
  | middle
  | bottom
deriving DecidableEq, Repr

/-- The outline of a shape. -/
inductive ShapeKind
  | rect
  | roundedRect
  | ellipse
  | line
deriving DecidableEq, Repr

/-- The ends of a connector that have an arrow head. -/
inductive ArrowHead
  | none
  | «end»
  | both
deriving DecidableEq, Repr

/-- Text set in a frame. -/
structure TextBlock where
  frame : Frame
  text : String
  fontFace : String
  fontSize : Float
  bold : Bool
  italic : Bool
  color : Color
  align : HAlign
  valign : VAlign

/-- A shape in a frame, filled or stroked or both. -/
structure Shape where
  kind : ShapeKind
  frame : Frame
  fill : Option Color
  stroke : Option Color
  strokeWidth : Float

/-- A straight line between two points. -/
structure Connector where
  source : Point
  target : Point
  color : Color
  width : Float
  head : ArrowHead

/-- One operation of a drawing. -/
inductive DrawOp
  | text (block : TextBlock)
  | shape (shape : Shape)
  | connector (connector : Connector)

/-- Whether a page shows its slide or the failure notice, with the reason. -/
inductive PageStatus
  | rendered
  | placeholder (reason : String)
deriving DecidableEq, Repr

/-- One rendered slide. -/
structure Page where
  position : Nat
  componentId : String
  background : Color
  ops : List DrawOp
  /-- Where the logo of the theme is stamped. -/
  logo : Option Frame
  status : PageStatus
  renderKey : String

/-- The page stands in for a slide that failed. -/
def Page.isPlaceholder (p : Page) : Bool :=
  match p.status with
  | .rendered => false
  | .placeholder _ => true

/-- What a slide shows that could not be rendered. -/
def failureText : String := "Error rendering slide"

/-- The failure notice: one centred line in red. -/
def failureMarker (fontFace : String) : List DrawOp :=
  [.text {
    frame := ⟨1, 3, 8, 1⟩
    text := failureText
    fontFace := fontFace
    fontSize := 24
    bold := false
    italic := false
    color := ⟨0xCC, 0, 0⟩
    align := .center
    valign := .middle }]

/-- The place of the logo in the upper right corner. -/
def logoFrame : Frame := ⟨8.6, 0.2, 1.2, 0.6⟩

end SlideDeck
