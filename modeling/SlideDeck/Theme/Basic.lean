import SlideDeck.Drawing.Codec
import SlideDeck.Text.Base64

/-! # Themes

A theme gives a document its colours, its two fonts and perhaps a logo. It is
settled once for a document and is the same for all of its pages.
-/

namespace SlideDeck

open Json (Decoder)

/-- Where a theme comes from: the built-in defaults, or a brand kit over them. -/
inductive ThemeSource
  | system
  | brand
deriving DecidableEq, Repr

/-- The colours of a theme. -/
structure ThemeColors where
  primary : Color
  secondary : Color
  accent : Color
  text : Color
  background : Color
deriving DecidableEq, Repr

/-- The fonts of a theme. -/
structure ThemeFonts where
  heading : String
  body : String
deriving DecidableEq, Repr

/-- The bytes of an image in base64. -/
structure Logo where
  base64 : String
deriving DecidableEq, Repr

/-- The bytes of a logo; blanks around the text do not count. -/
def Logo.bytes? (logo : Logo) : Option (List UInt8) :=
  Text.Base64.decode? (Text.trimChars logo.base64.toList)

/-- Colours, fonts and logo of a document. -/
structure Theme where
  source : ThemeSource
  colors : ThemeColors
  fonts : ThemeFonts
  logo : Option Logo
deriving DecidableEq, Repr

namespace Theme

/-- The built-in theme. -/
def standard : Theme where
  source := .system
  colors := {
    primary := ⟨0x00, 0x66, 0xCC⟩
    secondary := ⟨0x00, 0xAA, 0x00⟩
    accent := ⟨0xFF, 0x66, 0x00⟩
    text := ⟨0x33, 0x33, 0x33⟩
    background := ⟨0xFF, 0xFF, 0xFF⟩ }
  fonts := ⟨"Arial", "Arial"⟩
  logo := none

/-- What a render program reads of a theme. -/
def programValue (t : Theme) : Json :=
  Json.ofMembers [
    ("colors", Json.ofMembers [
      ("primary", t.colors.primary.toJson), ("secondary", t.colors.secondary.toJson),
      ("accent", t.colors.accent.toJson), ("text", t.colors.text.toJson),
      ("background", t.colors.background.toJson)]),
    ("fonts", Json.ofMembers [
      ("heading", .string t.fonts.heading), ("body", .string t.fonts.body)]),
    ("hasLogo", .bool t.logo.isSome)]

end Theme

/-! ## JSON forms -/

namespace ThemeSource

/-- The name of a source. -/
def name : ThemeSource → String
  | .system => "system"
  | .brand => "brand"

/-- The source of a name. -/
def ofName? : String → Option ThemeSource
  | "system" => some .system
  | "brand" => some .brand
  | _ => none

end ThemeSource

namespace ThemeColors

/-- The JSON form of the colours of a theme. -/
def toJson (c : ThemeColors) : Json :=
  Json.ofMembers [
    ("primary", c.primary.toJson), ("secondary", c.secondary.toJson),
    ("accent", c.accent.toJson), ("text", c.text.toJson), ("background", c.background.toJson)]

/-- Decodes the colours of a theme; `bg` is short for `background`. -/
def decode : Decoder ThemeColors := fun d => do
  let r ← d.record? ["primary", "secondary", "accent", "text", "background", "bg"]
  return {
    primary := ← r.required "primary" Color.decode
    secondary := ← r.required "secondary" Color.decode
    accent := ← r.required "accent" Color.decode
    text := ← r.required "text" Color.decode
    background := ← Color.decode (← ← r.either "background" "bg") }

end ThemeColors

namespace ThemeFonts

/-- The JSON form of the fonts of a theme. -/
def toJson (f : ThemeFonts) : Json :=
  Json.ofMembers [("heading", .string f.heading), ("body", .string f.body)]

/-- Decodes the fonts of a theme. -/
def decode : Decoder ThemeFonts := fun d => do
  let r ← d.record? ["heading", "body"]
  return ⟨← r.required "heading" Decoder.string, ← r.required "body" Decoder.string⟩

end ThemeFonts

namespace Logo

/-- The JSON form of a logo. -/
def toJson (logo : Logo) : Json := Json.ofMembers [("data_base64", .string logo.base64)]

/-- Decodes a logo. -/
def decode : Decoder Logo := fun d => do
  let r ← d.record? ["data_base64"]
  return ⟨← r.required "data_base64" Decoder.string⟩

end Logo

namespace Theme

/-- The JSON form of a theme. -/
def toJson (t : Theme) : Json :=
  Json.ofMembers [
    ("source", .string t.source.name), ("colors", t.colors.toJson),
    ("fonts", t.fonts.toJson), ("logo", Json.ofOption t.logo Logo.toJson)]

/-- Decodes a theme. -/
def decode : Decoder Theme := fun d => do
  let r ← d.record? ["source", "colors", "fonts", "logo"]
  return {
    source := ← r.optional "source" .system (Decoder.name ThemeSource.ofName?)
    colors := ← r.required "colors" ThemeColors.decode
    fonts := ← r.required "fonts" ThemeFonts.decode
    logo := ← r.nullable "logo" Logo.decode }

end Theme

end SlideDeck
