import SlideDeck.Theme.Basic

/-! # Brand kits

A brand kit overrides parts of the built-in theme. Every override is checked:
colours have to be colours, fonts must have a name and a logo must be base64.
-/

namespace SlideDeck

open Json (Decoder)

/-- The colours that a brand kit overrides, as they are written. -/
structure BrandColors where
  primary : Option String
  secondary : Option String
  accent : Option String
  text : Option String
  background : Option String

/-- The fonts that a brand kit overrides. -/
structure BrandFonts where
  heading : Option String
  body : Option String

/-- A partial theme. -/
structure BrandKit where
  colors : BrandColors
  fonts : BrandFonts
  logoBase64 : Option String

/-- Why a brand kit is no theme. -/
inductive ThemeError
  | invalidColor (role text : String)
  | emptyFont (role : String)
  | invalidLogo
deriving DecidableEq, Repr

/-- The message of an error. The reason why a logo is no base64 is not part of it. -/
def ThemeError.message : ThemeError → String
  | .invalidColor role text => s!"Invalid {role} color: {text}"
  | .emptyFont role => s!"Font name for {role} must not be empty"
  | .invalidLogo => "Logo is not valid base64"

namespace BrandKit

/-- The colour of a role: the override, or the one of the built-in theme. -/
def color (role : String) (override : Option String) (default : Color) :
    Except ThemeError Color :=
  match override with
  | none => .ok default
  | some text =>
    match Color.parse? text with
    | some c => .ok c
    | none => .error (.invalidColor role text)

/-- The font of a role: the override without outer blanks, or the one of the built-in
theme. -/
def font (role : String) (override : Option String) (default : String) :
    Except ThemeError String :=
  match override with
  | none => .ok default
  | some name => if Text.isBlankText name then .error (.emptyFont role) else .ok (Text.trim name)

/-- The logo of a kit. -/
def logo (override : Option String) : Except ThemeError (Option Logo) :=
  match override with
  | none => .ok none
  | some base64 =>
    if (Logo.mk base64).bytes?.isSome then .ok (some ⟨base64⟩) else .error .invalidLogo

/-- The built-in theme with the overrides of a kit. -/
def theme (kit : BrandKit) : Except ThemeError Theme := do
  let base := Theme.standard
  let colors : ThemeColors := {
    primary := ← color "primary" kit.colors.primary base.colors.primary
    secondary := ← color "secondary" kit.colors.secondary base.colors.secondary
    accent := ← color "accent" kit.colors.accent base.colors.accent
    text := ← color "text" kit.colors.text base.colors.text
    background := ← color "background" kit.colors.background base.colors.background }
  let fonts : ThemeFonts := {
    heading := ← font "heading" kit.fonts.heading base.fonts.heading
    body := ← font "body" kit.fonts.body base.fonts.body }
  return { source := .brand, colors := colors, fonts := fonts, logo := ← logo kit.logoBase64 }

end BrandKit

/-! ## JSON forms -/

namespace BrandColors

/-- No overrides. -/
def none : BrandColors := ⟨.none, .none, .none, .none, .none⟩

/-- The JSON form of the colours of a kit. -/
def toJson (c : BrandColors) : Json :=
  Json.ofMembers [
    ("primary", Json.ofOption c.primary .string), ("secondary", Json.ofOption c.secondary .string),
    ("accent", Json.ofOption c.accent .string), ("text", Json.ofOption c.text .string),
    ("background", Json.ofOption c.background .string)]

/-- Decodes the colours of a kit; `bg` is short for `background`. An array has an item
for each of them. -/
def decode : Decoder BrandColors := fun d => do
  guard (d.fills 5)
  let r ← d.record? ["primary", "secondary", "accent", "text", "background", "bg"]
  return {
    primary := ← r.nullable "primary" Decoder.string
    secondary := ← r.nullable "secondary" Decoder.string
    accent := ← r.nullable "accent" Decoder.string
    text := ← r.nullable "text" Decoder.string
    background := ← Decoder.nullable Decoder.string ((← r.either "background" "bg").getD .null) }

end BrandColors

namespace BrandFonts

/-- No overrides. -/
def none : BrandFonts := ⟨.none, .none⟩

/-- The JSON form of the fonts of a kit. -/
def toJson (f : BrandFonts) : Json :=
  Json.ofMembers [
    ("heading", Json.ofOption f.heading .string), ("body", Json.ofOption f.body .string)]

/-- Decodes the fonts of a kit. An array has an item for each of them. -/
def decode : Decoder BrandFonts := fun d => do
  guard (d.fills 2)
  let r ← d.record? ["heading", "body"]
  return ⟨← r.nullable "heading" Decoder.string, ← r.nullable "body" Decoder.string⟩

end BrandFonts

namespace BrandKit

/-- The JSON form of a kit. -/
def toJson (kit : BrandKit) : Json :=
  Json.ofMembers [
    ("colors", kit.colors.toJson), ("fonts", kit.fonts.toJson),
    ("logo_base64", Json.ofOption kit.logoBase64 .string)]

/-- Decodes a kit. -/
def decode : Decoder BrandKit := fun d => do
  let r ← d.record? ["colors", "fonts", "logo_base64"]
  return {
    colors := ← r.optional "colors" BrandColors.none BrandColors.decode
    fonts := ← r.optional "fonts" BrandFonts.none BrandFonts.decode
    logoBase64 := ← r.nullable "logo_base64" Decoder.string }

end BrandKit

end SlideDeck
