import SlideDeck.Text.Blank

/-! # Fonts

Text is set in the twelve faces of the three standard families, so that no font has
to be embedded. A theme names any font; the family that is closest to it by name
stands in for it. Widths of text are estimated by an average advance.
-/

namespace SlideDeck.Pdf

/-- The standard families. -/
inductive FontFamily
  | helvetica
  | times
  | courier
deriving DecidableEq, Repr

namespace FontFamily

/-- All families in the order of their numbers. -/
def all : List FontFamily := [.helvetica, .times, .courier]

/-- The number of a family. -/
def index : FontFamily → Nat
  | .helvetica => 0
  | .times => 1
  | .courier => 2

/-- Parts of the names of fonts with serifs. -/
def serifNames : List String := ["times", "georgia", "garamond", "serif", "cambria"]

/-- Parts of the names of fonts with a fixed width. -/
def fixedNames : List String := ["courier", "mono", "consolas"]

/-- The family that is closest to a font by its name. -/
def closest (fontFace : String) : FontFamily :=
  let name := String.ofList (fontFace.toList.map Char.toLower)
  if serifNames.any (Text.occursIn · name) && !Text.occursIn "sans" name then .times
  else if fixedNames.any (Text.occursIn · name) then .courier
  else .helvetica

end FontFamily

/-- One face of a family. -/
structure FontFace where
  family : FontFamily
  bold : Bool
  italic : Bool
deriving DecidableEq, Repr

namespace FontFace

/-- All faces in the order of their numbers. -/
def all : List FontFace :=
  FontFamily.all.flatMap fun family =>
    [⟨family, false, false⟩, ⟨family, false, true⟩, ⟨family, true, false⟩, ⟨family, true, true⟩]

/-- The name under which pages refer to a face. -/
def resourceName (f : FontFace) : String :=
  s!"F{f.family.index * 4 + f.bold.toNat * 2 + f.italic.toNat + 1}"

/-- The name of the standard font. -/
def baseName : FontFace → String
  | ⟨.helvetica, false, false⟩ => "Helvetica"
  | ⟨.helvetica, true, false⟩ => "Helvetica-Bold"
  | ⟨.helvetica, false, true⟩ => "Helvetica-Oblique"
  | ⟨.helvetica, true, true⟩ => "Helvetica-BoldOblique"
  | ⟨.times, false, false⟩ => "Times-Roman"
  | ⟨.times, true, false⟩ => "Times-Bold"
  | ⟨.times, false, true⟩ => "Times-Italic"
  | ⟨.times, true, true⟩ => "Times-BoldItalic"
  | ⟨.courier, false, false⟩ => "Courier"
  | ⟨.courier, true, false⟩ => "Courier-Bold"
  | ⟨.courier, false, true⟩ => "Courier-Oblique"
  | ⟨.courier, true, true⟩ => "Courier-BoldOblique"

/-- The average advance as a part of the font size. -/
def averageWidth (f : FontFace) : Float :=
  match f.family, f.bold with
  | .courier, _ => 0.6
  | .times, true => 0.5
  | .times, false => 0.45
  | .helvetica, true => 0.55
  | .helvetica, false => 0.5

end FontFace

/-- The byte of a character in the encoding of the fonts. Characters that the
encoding lacks, and control characters, are shown as question marks. -/
def encodeChar (c : Char) : UInt8 :=
  let n := c.toNat
  if (0x20 ≤ n && n ≤ 0x7E) || (0xA0 ≤ n && n ≤ 0xFF) then UInt8.ofNat n
  else
    match c with
    | '€' => 0x80
    | '…' => 0x85
    | '‘' => 0x91
    | '’' => 0x92
    | '“' => 0x93
    | '”' => 0x94
    | '•' => 0x95
    | '–' => 0x96
    | '—' => 0x97
    | '™' => 0x99
    | _ => 0x3F

/-- The bytes of a text in the encoding of the fonts. -/
def encodeText (text : String) : List UInt8 := text.toList.map encodeChar

end SlideDeck.Pdf
