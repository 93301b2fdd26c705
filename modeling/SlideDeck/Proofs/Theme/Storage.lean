import SlideDeck.Proofs.Json.Records
import SlideDeck.Proofs.Text.Trimming
import SlideDeck.Theme.Basic

/-!
# Themes that have been written

A colour is read from the six digits that it is written with, and a theme from its form.
-/

namespace SlideDeck

open Json (Draft Decoder recordOf required_recordOf optional_recordOf nullable_recordOf)

/-! ## Colours -/

namespace Color

/-- A hexadecimal digit has its value and is neither a blank nor a number sign. -/
theorem hexDigit_spec {n : ℕ} (h : n < 16) :
    Text.hexValue? (hexDigit n) = some n ∧ Text.isBlank (hexDigit n) = false ∧
      hexDigit n ≠ '#' := by
  have hall : ∀ n : Fin 16, Text.hexValue? (hexDigit n) = some n.val ∧
      Text.isBlank (hexDigit n) = false ∧ hexDigit n ≠ '#' := by decide
  exact hall ⟨n, h⟩

theorem channel?_channelDigits (v : UInt8) :
    channel? (hexDigit (v.toNat / 16)) (hexDigit (v.toNat % 16)) = some v := by
  have hbyte : v.toNat < 256 := v.toNat_lt
  rw [channel?, (hexDigit_spec (by omega : v.toNat / 16 < 16)).1,
    (hexDigit_spec (by omega : v.toNat % 16 < 16)).1]
  change some (UInt8.ofNat (16 * (v.toNat / 16) + v.toNat % 16)) = some v
  rw [Nat.div_add_mod, UInt8.ofNat_toNat]

theorem isBlank_channelDigits (v : UInt8) : ∀ c ∈ channelDigits v, Text.isBlank c = false := by
  have hbyte : v.toNat < 256 := v.toNat_lt
  simp only [channelDigits, List.forall_mem_cons]
  exact ⟨(hexDigit_spec (by omega)).2.1, (hexDigit_spec (by omega)).2.1, nofun⟩

/-- A colour is read from its text. -/
theorem parse?_text (c : Color) : parse? c.text = some c := by
  have htrim : Text.trimChars c.text.toList = c.text.toList := by
    refine Text.trimChars_of_forall ?_
    rw [text, String.toList_ofList]
    simp only [List.forall_mem_append]
    exact ⟨⟨isBlank_channelDigits _, isBlank_channelDigits _⟩, isBlank_channelDigits _⟩
  have hsign : c.text.toList.dropWhile (· == '#') = c.text.toList := by
    have hdigit : hexDigit (c.red.toNat / 16) ≠ '#' :=
      (hexDigit_spec (by have := c.red.toNat_lt; omega)).2.2
    rw [text, String.toList_ofList, channelDigits, List.cons_append, List.cons_append,
      List.dropWhile_cons_of_neg (by simpa using hdigit)]
  rw [parse?, htrim, hsign, text, String.toList_ofList]
  change (do return ⟨← channel? _ _, ← channel? _ _, ← channel? _ _⟩ : Option Color) = some c
  rw [channel?_channelDigits, channel?_channelDigits, channel?_channelDigits]
  rfl

theorem decode_toJson (c : Color) : decode (Draft.ofJson c.toJson) = some c := by
  rw [toJson, decode, Json.string_ofJson, Option.bind_some, parse?_text]

end Color

/-! ## Themes -/

/-- The members that are written for the colours of a theme. -/
def ThemeColors.members (c : ThemeColors) : List (String × Json) := [
  ("primary", c.primary.toJson), ("secondary", c.secondary.toJson), ("accent", c.accent.toJson),
  ("text", c.text.toJson), ("background", c.background.toJson)]

theorem ThemeColors.decode_toJson (c : ThemeColors) : decode (Draft.ofJson c.toJson) = some c := by
  have hnames : (c.members.map Prod.fst).Nodup := by simp [members]
  have hcolor : ∀ {name : String} (color : Color),
      (c.members.lookup name = some color.toJson) →
      (recordOf c.members).required name Color.decode = some color :=
    fun color hlookup => required_recordOf hlookup color.decode_toJson
  have hbackground : (recordOf c.members).either "background" "bg" =
      some (some (Draft.ofJson c.background.toJson)) := by
    rw [Json.Record.either, Json.lookup_recordOf, Json.lookup_recordOf]
    rfl
  have hform : c.toJson = Json.ofMembers c.members := rfl
  rw [hform]
  simp only [decode, Json.record?_ofMembers hnames, Option.bind_eq_bind, Option.bind_some,
    hcolor c.primary (rfl : c.members.lookup "primary" = _),
    hcolor c.secondary (rfl : c.members.lookup "secondary" = _),
    hcolor c.accent (rfl : c.members.lookup "accent" = _),
    hcolor c.text (rfl : c.members.lookup "text" = _), hbackground, Color.decode_toJson]
  rfl

theorem ThemeColors.isNormal_toJson (c : ThemeColors) : c.toJson.IsNormal := by
  refine Json.isNormal_ofMembers (by simp) ?_
  simp [Color.toJson]

theorem ThemeFonts.decode_toJson (f : ThemeFonts) : decode (Draft.ofJson f.toJson) = some f := rfl

theorem Logo.decode_toJson (logo : Logo) : decode (Draft.ofJson logo.toJson) = some logo := rfl

theorem ThemeSource.name_name (source : ThemeSource) :
    Decoder.name ofName? (Draft.ofJson (.string source.name)) = some source := by
  cases source <;> rfl

namespace Theme

/-- The members that are written for a theme. -/
def members (t : Theme) : List (String × Json) := [
  ("source", .string t.source.name), ("colors", t.colors.toJson), ("fonts", t.fonts.toJson),
  ("logo", Json.ofOption t.logo Logo.toJson)]

/-- A theme comes back from its form. -/
theorem decode_toJson (t : Theme) : decode (Draft.ofJson t.toJson) = some t := by
  have hnames : (t.members.map Prod.fst).Nodup := by simp [members]
  have hsource : (recordOf t.members).optional "source" .system
      (Decoder.name ThemeSource.ofName?) = some t.source :=
    optional_recordOf rfl _ t.source.name_name
  have hcolors : (recordOf t.members).required "colors" ThemeColors.decode = some t.colors :=
    required_recordOf rfl t.colors.decode_toJson
  have hfonts : (recordOf t.members).required "fonts" ThemeFonts.decode = some t.fonts :=
    required_recordOf rfl t.fonts.decode_toJson
  have hlogo : (recordOf t.members).nullable "logo" Logo.decode = some t.logo :=
    nullable_recordOf rfl fun logo _ => ⟨logo.decode_toJson, Json.noConfusion⟩
  have hform : t.toJson = Json.ofMembers t.members := rfl
  rw [hform]
  simp only [decode, Json.record?_ofMembers hnames, Option.bind_eq_bind, Option.bind_some, hsource,
    hcolors, hfonts, hlogo]
  rfl

theorem toJson_injective : Function.Injective toJson := by
  intro t t' h
  have hdecode := t.decode_toJson
  rw [h, t'.decode_toJson] at hdecode
  exact (Option.some.inj hdecode).symm

theorem isNormal_toJson (t : Theme) : t.toJson.IsNormal := by
  have hfonts : t.fonts.toJson.IsNormal := Json.isNormal_ofMembers (by simp) (by simp)
  have hlogo : (Json.ofOption t.logo Logo.toJson).IsNormal :=
    Json.isNormal_ofOption t.logo fun logo => Json.isNormal_ofMembers (by simp) (by simp)
  refine Json.isNormal_ofMembers (by simp) ?_
  simp [t.colors.isNormal_toJson, hfonts, hlogo]

end Theme

end SlideDeck
