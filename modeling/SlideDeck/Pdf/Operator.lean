import SlideDeck.Drawing.Basic
import SlideDeck.Pdf.Font

/-! # Page content

The content of a page is a list of operators with their operands. An operator is
written on a line of its own, behind its operands.
-/

namespace SlideDeck.Pdf

/-- The operators that pages are made of. -/
inductive Operator
  | save
  | restore
  | fillColor (c : Color)
  | strokeColor (c : Color)
  | lineWidth (w : Float)
  | moveTo (x y : Float)
  | lineTo (x y : Float)
  | curveTo (x1 y1 x2 y2 x3 y3 : Float)
  | rectangle (x y w h : Float)
  | closePath
  | fill
  | stroke
  | fillAndStroke
  | endPath
  | beginText
  | endText
  | font (face : FontFace) (size : Float)
  | textOrigin (x y : Float)
  | showText (bytes : List UInt8)
  | transform (a b c d e f : Float)
  | drawObject (name : String)

/-! ## Literal strings -/

/-- The places of the parentheses that find no partner, from a place on; those that
are open come last first. -/
def loneParentheses : (place : Nat) → (opened : List Nat) → List UInt8 → List Nat
  | _, opened, [] => opened
  | place, opened, b :: rest =>
    if b == 0x28 then loneParentheses (place + 1) (place :: opened) rest
    else if b == 0x29 then
      match opened with
      | [] => place :: loneParentheses (place + 1) [] rest
      | _ :: outer => loneParentheses (place + 1) outer rest
    else loneParentheses (place + 1) opened rest

/-- The bytes from a place on, escaped where a parenthesis stands alone, and all
backslashes and carriage returns. -/
def escapeFrom (lone : List Nat) : (place : Nat) → List UInt8 → List UInt8
  | _, [] => []
  | place, b :: rest =>
    let tail := escapeFrom lone (place + 1) rest
    if b == 0x0D then 0x5C :: 0x72 :: tail
    else if b == 0x5C || lone.contains place then 0x5C :: b :: tail
    else b :: tail

/-- A literal string: the bytes in parentheses. -/
def literal (bytes : List UInt8) : List UInt8 :=
  0x28 :: escapeFrom (loneParentheses 0 [] bytes) 0 bytes ++ [0x29]

/-! ## Lines -/

/-- The bytes of an ASCII text. -/
def asciiBytes (text : String) : List UInt8 := text.toList.map fun c => UInt8.ofNat c.toNat

/-- The operands and the name of an operator, with single spaces between them. -/
def spaced (parts : List String) : List UInt8 := asciiBytes (" ".intercalate parts)

/-- An operator behind numbers. -/
def numeric (operands : List Float) (name : String) : List UInt8 :=
  spaced (operands.map Binary64.toSingleText ++ [name])

/-- The channels of a colour as parts of one. -/
def colorOperands (c : Color) : List Float :=
  [Color.part c.red, Color.part c.green, Color.part c.blue]

/-- The line of an operator. -/
def Operator.line : Operator → List UInt8
  | .save => spaced ["q"]
  | .restore => spaced ["Q"]
  | .fillColor c => numeric (colorOperands c) "rg"
  | .strokeColor c => numeric (colorOperands c) "RG"
  | .lineWidth w => numeric [w] "w"
  | .moveTo x y => numeric [x, y] "m"
  | .lineTo x y => numeric [x, y] "l"
  | .curveTo x1 y1 x2 y2 x3 y3 => numeric [x1, y1, x2, y2, x3, y3] "c"
  | .rectangle x y w h => numeric [x, y, w, h] "re"
  | .closePath => spaced ["h"]
  | .fill => spaced ["f"]
  | .stroke => spaced ["S"]
  | .fillAndStroke => spaced ["B"]
  | .endPath => spaced ["n"]
  | .beginText => spaced ["BT"]
  | .endText => spaced ["ET"]
  | .font face size => spaced ["/" ++ face.resourceName, Binary64.toSingleText size, "Tf"]
  | .textOrigin x y => numeric [1, 0, 0, 1, x, y] "Tm"
  | .showText bytes => literal bytes ++ spaced ["", "Tj"]
  | .transform a b c d e f => numeric [a, b, c, d, e, f] "cm"
  | .drawObject name => spaced ["/" ++ name, "Do"]

end SlideDeck.Pdf
