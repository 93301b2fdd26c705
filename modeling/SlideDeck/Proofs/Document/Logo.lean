import SlideDeck.Library.Titles
import SlideDeck.Pdf.File
import SlideDeck.Proofs.Document.Composition

/-!
# Logos in documents and files

A document shows the logo of its theme when the bytes of the logo start like an image, but
its file holds the image that they decode to. Images of more formats can be told by how they
start than can be decoded. What starts like an image and cannot be decoded is shown on every
page, and there is no file.
-/

namespace SlideDeck

/-- The image of a logo, if its bytes can be read and decoded. -/
def Logo.image? (w : Pdf.Writer) (logo : Logo) : Option Raster := logo.bytes?.bind w.decode

/-- An image that can be decoded starts with the signature of its format. -/
theorem ImageFormat.ofFile?_of_decode? {file : List UInt8} {image : Raster}
    (h : Png.decode? file = some image) : ofFile? file = some .png := by
  unfold Png.decode? at h
  split at h
  next hsignature =>
    rw [ofFile?, signatures, List.find?_cons, hsignature]
    rfl
  next => cases h

namespace Pdf

theorem Writer.decodesPngAndJpeg_standard : Writer.standard.DecodesPngAndJpeg :=
  fun _ _ h => .inl (ImageFormat.ofFile?_of_decode? h)

theorem Writer.neverFails_standard : Writer.standard.NeverFails :=
  ⟨fun _ => rfl, fun _ => rfl⟩

namespace File

variable {w : Writer} {d : Document} {file written : File} {logo : Option Raster}
  {e : WriteError}

theorem decodeLogo_eq_error_iff {logo : Logo} :
    decodeLogo w logo = .error e ↔ e = .unreadableLogo ∧ logo.image? w = none := by
  unfold decodeLogo Logo.image?
  cases logo.bytes?.bind w.decode <;> simp [eq_comm]

/-- What is written is what was to be written. -/
theorem write_eq_ok (h : write w file = .ok written) : written = file := by
  unfold write at h
  split at h
  next => cases h
  next =>
    split at h
    next => cases h
    next => exact (Except.ok.inj h).symm

theorem write_ne_unreadableLogo : write w file ≠ .error .unreadableLogo := by
  unfold write
  split
  next => exact fun h => WriteError.noConfusion (Except.error.inj h)
  next => split <;> exact fun h => by cases h

theorem write_of_neverFails (hw : w.NeverFails) (file : File) : write w file = .ok file := by
  have hencoded : (file.pages.findSome? fun p => w.encodingFault p.content) = none :=
    List.findSome?_eq_none_iff.mpr fun p _ => hw.encodes p.content
  unfold write
  rw [hencoded, hw.writes file]

theorem ofDocument_of_logoOf (h : logoOf w d = .ok logo) :
    ofDocument w d = write w (contentsOf d logo) := by
  unfold ofDocument
  rw [h]
  rfl

theorem ofDocument_of_logoOf_error (h : logoOf w d = .error e) : ofDocument w d = .error e := by
  unfold ofDocument
  rw [h]
  rfl

/-- A file holds the image that was looked for. -/
theorem logoOf_of_ofDocument (h : ofDocument w d = .ok file) : logoOf w d = .ok file.logo := by
  cases hlogo : logoOf w d with
  | error e =>
      rw [ofDocument_of_logoOf_error hlogo] at h
      cases h
  | ok logo =>
      rw [ofDocument_of_logoOf hlogo] at h
      rw [write_eq_ok h]
      rfl

/-- A logo is the reason that there is no file just when its image is not found. -/
theorem ofDocument_eq_unreadableLogo_iff :
    ofDocument w d = .error .unreadableLogo ↔ logoOf w d = .error .unreadableLogo := by
  refine ⟨fun h => ?_, ofDocument_of_logoOf_error⟩
  cases hlogo : logoOf w d with
  | error e =>
      rw [ofDocument_of_logoOf_error hlogo] at h
      rw [Except.error.inj h]
  | ok logo =>
      rw [ofDocument_of_logoOf hlogo] at h
      exact absurd h write_ne_unreadableLogo

end File

end Pdf

theorem Logo.format?_of_image? {w : Pdf.Writer} (hw : w.DecodesPngAndJpeg) {logo : Logo}
    {image : Raster} (h : logo.image? w = some image) :
    logo.format? = some .png ∨ logo.format? = some .jpeg := by
  obtain ⟨bytes, hbytes, hdecode⟩ := Option.bind_eq_some_iff.mp h
  rw [format?, hbytes, Option.bind_some]
  exact hw bytes image hdecode

/-- A logo of another format has no image. -/
theorem Logo.image?_eq_none {w : Pdf.Writer} (hw : w.DecodesPngAndJpeg) {logo : Logo}
    {format : ImageFormat} (hformat : logo.format? = some format) (hpng : format ≠ .png)
    (hjpeg : format ≠ .jpeg) : logo.image? w = none := by
  by_contra himage
  obtain ⟨image, himage⟩ := Option.ne_none_iff_exists'.mp himage
  rcases Logo.format?_of_image? hw himage with hother | hother <;> rw [hformat] at hother
  · exact hpng (Option.some.inj hother)
  · exact hjpeg (Option.some.inj hother)

theorem Theme.isSome_logoFrame? {theme : Theme} :
    theme.logoFrame?.isSome = true ↔
      ∃ logo, theme.logo = some logo ∧ logo.format?.isSome = true := by
  simp [logoFrame?, Option.isSome_iff_exists, Option.bind_eq_some_iff]

namespace Blueprint

variable {b : Blueprint} {k : Catalogue} {limits : ExecutionLimits} {theme : Theme}
  {title : String} {d : Document}

/-- A page shows the logo of the theme just when that starts like an image. -/
theorem isSome_logo_of_compose (h : b.compose k limits theme title = .ok d) {p : Page}
    (hp : p ∈ d.pages) :
    p.logo.isSome = true ↔ ∃ logo, theme.logo = some logo ∧ logo.format?.isSome = true := by
  obtain ⟨_, _, hlogo⟩ := pages_of_compose h
  rw [hlogo p hp, Theme.isSome_logoFrame?]

/-- The image is looked for just when the pages show the logo. -/
theorem logoOf_compose (h : b.compose k limits theme title = .ok d) (w : Pdf.Writer) :
    Pdf.File.logoOf w d = match theme.logo with
      | none => .ok none
      | some logo =>
        if logo.format?.isSome then (Pdf.File.decodeLogo w logo).map some else .ok none := by
  obtain ⟨htheme, hpages, _⟩ := pages_of_compose h
  unfold Pdf.File.logoOf
  rw [htheme]
  cases hlogo : theme.logo with
  | none => rfl
  | some logo =>
      have hshown : (d.pages.any fun p => p.logo.isSome) = logo.format?.isSome := by
        rw [Bool.eq_iff_iff, List.any_eq_true]
        constructor
        · rintro ⟨p, hp, hsome⟩
          obtain ⟨other, hother, hformat⟩ := (isSome_logo_of_compose h hp).mp hsome
          rw [hlogo] at hother
          cases hother
          exact hformat
        · intro hformat
          obtain ⟨p, hp⟩ := List.exists_mem_of_ne_nil _ hpages
          exact ⟨p, hp, (isSome_logo_of_compose h hp).mpr ⟨logo, hlogo, hformat⟩⟩
      dsimp only
      rw [hshown]

variable {w : Pdf.Writer} {logo : Logo}

theorem logoOf_compose_of_image (h : b.compose k limits theme title = .ok d)
    (hw : w.DecodesPngAndJpeg) (hlogo : theme.logo = some logo) {image : Raster}
    (himage : logo.image? w = some image) : Pdf.File.logoOf w d = .ok (some image) := by
  have hformat : logo.format?.isSome = true := by
    rcases Logo.format?_of_image? hw himage with hformat | hformat <;> rw [hformat] <;> rfl
  rw [logoOf_compose h, hlogo]
  dsimp only
  rw [if_pos hformat, Pdf.File.decodeLogo, ← Logo.image?, himage]
  rfl

/-- The image is looked for in vain just when the logo starts like an image and cannot be
decoded. -/
theorem logoOf_compose_eq_error_iff (h : b.compose k limits theme title = .ok d)
    {e : Pdf.WriteError} :
    Pdf.File.logoOf w d = .error e ↔ e = .unreadableLogo ∧
      ∃ logo, theme.logo = some logo ∧ logo.format?.isSome = true ∧ logo.image? w = none := by
  rw [logoOf_compose h]
  cases hlogo : theme.logo with
  | none => simp
  | some logo =>
      have hmap : (Pdf.File.decodeLogo w logo).map some = .error e ↔
          Pdf.File.decodeLogo w logo = .error e := by
        cases Pdf.File.decodeLogo w logo <;> simp [Except.map]
      dsimp only
      split
      next hformat => rw [hmap, Pdf.File.decodeLogo_eq_error_iff]; simp [hformat]
      next hformat => simp [hformat]

theorem ofDocument_compose_eq_unreadableLogo_iff (h : b.compose k limits theme title = .ok d) :
    Pdf.File.ofDocument w d = .error .unreadableLogo ↔
      ∃ logo, theme.logo = some logo ∧ logo.format?.isSome = true ∧ logo.image? w = none := by
  rw [Pdf.File.ofDocument_eq_unreadableLogo_iff, logoOf_compose_eq_error_iff h]
  exact and_iff_right rfl

/-- Where all pages are encoded and all files are written, nothing stands in the way of a file
but a logo that starts like an image and cannot be decoded. -/
theorem ofDocument_compose_eq_error_iff (h : b.compose k limits theme title = .ok d)
    (hw : w.NeverFails) :
    (∃ e, Pdf.File.ofDocument w d = .error e) ↔
      ∃ logo, theme.logo = some logo ∧ logo.format?.isSome = true ∧ logo.image? w = none := by
  rw [← ofDocument_compose_eq_unreadableLogo_iff h]
  refine ⟨fun ⟨e, herror⟩ => ?_, fun herror => ⟨_, herror⟩⟩
  cases hlogo : Pdf.File.logoOf w d with
  | error e =>
      obtain ⟨rfl, _⟩ := (logoOf_compose_eq_error_iff h).mp hlogo
      exact Pdf.File.ofDocument_of_logoOf_error hlogo
  | ok image =>
      rw [Pdf.File.ofDocument_of_logoOf hlogo, Pdf.File.write_of_neverFails hw] at herror
      cases herror

/-- The pages of a document show the logo of its theme just when that starts like an image.
A logo that can be decoded is in the file. A logo that starts like an image and cannot be
decoded stands in the way of a file, so one of any other format than PNG and JPEG always does,
and nothing else stands in the way but pages that cannot be encoded and files that cannot be
written. -/
theorem logo_of_compose (h : b.compose k limits theme title = .ok d)
    (hw : w.DecodesPngAndJpeg) :
    (∀ p ∈ d.pages, p.logo.isSome = true ↔
      ∃ logo, theme.logo = some logo ∧ logo.format?.isSome = true) ∧
    (∀ logo image, theme.logo = some logo → logo.image? w = some image →
      ∀ file, Pdf.File.ofDocument w d = .ok file → file.logo = some image) ∧
    (Pdf.File.ofDocument w d = .error .unreadableLogo ↔
      ∃ logo, theme.logo = some logo ∧ logo.format?.isSome = true ∧ logo.image? w = none) ∧
    (∀ logo format, theme.logo = some logo → logo.format? = some format → format ≠ .png →
      format ≠ .jpeg → Pdf.File.ofDocument w d = .error .unreadableLogo) ∧
    (w.NeverFails → ((∃ e, Pdf.File.ofDocument w d = .error e) ↔
      Pdf.File.ofDocument w d = .error .unreadableLogo)) := by
  have hunreadable := ofDocument_compose_eq_unreadableLogo_iff (w := w) h
  refine ⟨fun _ hp => isSome_logo_of_compose h hp, fun logo image hlogo himage file hfile => ?_,
    hunreadable, fun logo format hlogo hformat hpng hjpeg => ?_, fun hfails => ?_⟩
  · have hfound := logoOf_compose_of_image h hw hlogo himage
    rw [Pdf.File.logoOf_of_ofDocument hfile] at hfound
    exact Except.ok.inj hfound
  · exact hunreadable.mpr
      ⟨logo, hlogo, by rw [hformat]; rfl, Logo.image?_eq_none hw hformat hpng hjpeg⟩
  · rw [ofDocument_compose_eq_error_iff h hfails, hunreadable]

/-- A deck of a single cover. -/
def coverDeck : Blueprint :=
  ⟨[.of 0 Library.minimalCover (.object [("title", .string "Deck")])]⟩

/-- The theme of a brand with a logo that is nothing but a signature. -/
def signatureTheme : Theme :=
  { Theme.standard with source := .brand, logo := some ⟨"R0lGODlh"⟩ }

theorem exists_compose_coverDeck (theme : Theme) :
    ∃ d, coverDeck.compose .empty .standard theme "Deck" = .ok d := by
  have hsorted : coverDeck.sorted = coverDeck :=
    congrArg Blueprint.mk (List.mergeSort_singleton _)
  have hspecs : ∃ specs, pageSpecs .empty coverDeck.sorted.entries = .ok specs := by
    rw [hsorted]
    exact ⟨_, rfl⟩
  obtain ⟨specs, hspecs⟩ := hspecs
  exact ⟨_, compose_eq_ok_iff.mpr ⟨rfl, specs, hspecs, rfl⟩⟩

theorem signatureTheme_logo :
    ∃ logo, signatureTheme.logo = some logo ∧ logo.format? = some .gif :=
  ⟨_, rfl, by decide +kernel⟩

/-- The cover shows the logo that is only a signature, and so the deck has no file. -/
theorem logo_of_compose_signatureTheme :
    Pdf.Writer.standard.DecodesPngAndJpeg ∧
    ∃ d, coverDeck.compose .empty .standard signatureTheme "Deck" = .ok d ∧
      (∀ p ∈ d.pages, p.logo.isSome = true ↔
        ∃ logo, signatureTheme.logo = some logo ∧ logo.format?.isSome = true) ∧
      ((∃ e, Pdf.File.ofDocument .standard d = .error e) ↔
        Pdf.File.ofDocument .standard d = .error .unreadableLogo) ∧
      Pdf.File.ofDocument .standard d = .error .unreadableLogo := by
  obtain ⟨d, hcompose⟩ := exists_compose_coverDeck signatureTheme
  obtain ⟨hshown, _, _, hother, hfails⟩ :=
    logo_of_compose hcompose Pdf.Writer.decodesPngAndJpeg_standard
  obtain ⟨logo, hlogo, hformat⟩ := signatureTheme_logo
  exact ⟨Pdf.Writer.decodesPngAndJpeg_standard, d, hcompose, hshown,
    hfails Pdf.Writer.neverFails_standard, hother logo .gif hlogo hformat nofun nofun⟩

/-- A document that is composed need not have a file, whatever decodes PNG and JPEG only. -/
theorem exists_compose_without_file :
    ∃ d, coverDeck.compose .empty .standard signatureTheme "Deck" = .ok d ∧
      ∀ w : Pdf.Writer, w.DecodesPngAndJpeg →
        Pdf.File.ofDocument w d = .error .unreadableLogo := by
  obtain ⟨d, hcompose⟩ := exists_compose_coverDeck signatureTheme
  obtain ⟨logo, hlogo, hformat⟩ := signatureTheme_logo
  refine ⟨d, hcompose, fun w hw => ?_⟩
  refine (ofDocument_compose_eq_unreadableLogo_iff hcompose).mpr
    ⟨logo, hlogo, by rw [hformat]; rfl, ?_⟩
  exact Logo.image?_eq_none hw hformat nofun nofun

end Blueprint

end SlideDeck
