import SlideDeck.Document.Basic
import SlideDeck.Image.Png
import SlideDeck.Pdf.Painting

/-! # PDF files

What a file holds of a document: a page object for each page, the fonts, the logo if
a page shows it, and the information about the document. Images are decoded, contents
encoded and files written by others, so what they do is given by a writer.
-/

namespace SlideDeck.Pdf

/-- Why there is no file for a document. -/
inductive WriteError
  | unreadableLogo
  | unencodable (reason : String)
  | unwritable (reason : String)
deriving DecidableEq, Repr

/-- The message of an error. -/
def WriteError.message : WriteError → String
  | .unreadableLogo => "Logo could not be decoded"
  | .unencodable reason => s!"Content stream encoding failed: {reason}"
  | .unwritable reason => s!"PDF write failed: {reason}"

/-- One page of a file: its corners in points and its content. -/
structure PageObject where
  mediaBox : List Float
  content : List Operator

/-- The information about a document. -/
structure Info where
  title : String
  author : String
  producer : String
  subject : String
deriving DecidableEq, Repr

/-- The contents of a file. -/
structure File where
  pages : List PageObject
  logo : Option Raster
  info : Info

/-- What writing files relies on. -/
structure Writer where
  /-- The image that the bytes of an image file decode to, if they do. -/
  decode : List UInt8 → Option Raster
  /-- Why the operators of a page cannot be encoded, if they cannot. -/
  encodingFault : List Operator → Option String
  /-- Why a file cannot be written, if it cannot. -/
  writingFault : File → Option String

namespace Writer

/-- The writer that decodes the images that the `Png` module reads, which are PNG files of
stored blocks. With it all pages are encoded and all files written. -/
def standard : Writer where
  decode := Png.decode?
  encodingFault := fun _ => none
  writingFault := fun _ => none

/-- Only files that start like PNG or JPEG decode. -/
def DecodesPngAndJpeg (w : Writer) : Prop :=
  ∀ file image, w.decode file = some image →
    ImageFormat.ofFile? file = some .png ∨ ImageFormat.ofFile? file = some .jpeg

/-- All pages are encoded and all files are written. -/
structure NeverFails (w : Writer) : Prop where
  encodes : ∀ content, w.encodingFault content = none
  writes : ∀ file, w.writingFault file = none

end Writer

namespace File

/-- The version of the format. -/
def version : String := "1.5"

/-- The image of a logo. -/
def decodeLogo (w : Writer) (logo : Logo) : Except WriteError Raster :=
  match logo.bytes?.bind w.decode with
  | some image => .ok image
  | none => .error .unreadableLogo

/-- The image to be embedded for a document: the logo of the theme, if some page shows
one. -/
def logoOf (w : Writer) (d : Document) : Except WriteError (Option Raster) :=
  match d.theme.logo with
  | none => .ok none
  | some logo =>
    if d.pages.any fun p => p.logo.isSome then (decodeLogo w logo).map some else .ok none

/-- The contents of the file for a document with an image for its logo. -/
def contentsOf (d : Document) (logo : Option Raster) : File :=
  let width := d.canvas.width * pointsPerInch
  let height := d.canvas.height * pointsPerInch
  { pages := d.pages.map fun p => {
      mediaBox := [0, 0, width, height]
      content := paintPage width height (logo.map Raster.aspect) p }
    logo := logo
    info := ⟨d.title, Document.author, Document.producer, Document.subject⟩ }

/-- Encodes the pages one after another and writes the file. -/
def write (w : Writer) (file : File) : Except WriteError File :=
  match file.pages.findSome? fun p => w.encodingFault p.content with
  | some reason => .error (.unencodable reason)
  | none =>
    match w.writingFault file with
    | some reason => .error (.unwritable reason)
    | none => .ok file

/-- The file for a document. -/
def ofDocument (w : Writer) (d : Document) : Except WriteError File := do
  let logo ← logoOf w d
  write w (contentsOf d logo)

end File

end SlideDeck.Pdf
