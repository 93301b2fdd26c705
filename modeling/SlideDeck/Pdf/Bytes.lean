import SlideDeck.Pdf.File
import SlideDeck.Pdf.Object

/-! # Bytes of PDF files

The objects of a file in the order of their numbers: the catalog, the tree of pages, the
information, the resources, the fonts, the images of the logo, and two objects for each
page.
-/

namespace SlideDeck.Pdf.File

/-- The number of the catalog. -/
def catalogNumber : Nat := 1

/-- The number of the tree of pages. -/
def pagesNumber : Nat := 2

/-- The number of the information. -/
def infoNumber : Nat := 3

/-- The number of the resources. -/
def resourcesNumber : Nat := 4

/-- The number of the first font. -/
def firstFont : Nat := 5

/-- The number of the logo; its mask comes next. -/
def logoNumber : Nat := firstFont + FontFace.all.length

/-- The number of objects that the logo takes. -/
def logoObjects (f : File) : Nat :=
  match f.logo with
  | none => 0
  | some image => if image.isOpaque then 1 else 2

/-- The number of the first page; its content comes next. -/
def firstPage (f : File) : Nat := logoNumber + f.logoObjects

/-- The font of a face. -/
def fontObject (face : FontFace) : Object :=
  .dictionary [("Type", .name "Font"), ("Subtype", .name "Type1"),
    ("BaseFont", .name face.baseName), ("Encoding", .name "WinAnsiEncoding")]

/-- What an image says of itself. -/
def imageMembers (r : Raster) (colorSpace : String) : List (String × Object) := [
  ("Type", .name "XObject"), ("Subtype", .name "Image"), ("Width", .integer r.width),
  ("Height", .integer r.height), ("ColorSpace", .name colorSpace),
  ("BitsPerComponent", .integer 8)]

/-- The images of a logo: its colours, and its opacities unless it is opaque. -/
def logoBodies (r : Raster) : List Body :=
  if r.isOpaque then [.stream (imageMembers r "DeviceRGB") r.colorSamples]
  else [
    .stream (imageMembers r "DeviceRGB" ++ [("SMask", .reference (logoNumber + 1))])
      r.colorSamples,
    .stream (imageMembers r "DeviceGray") r.alphaSamples]

/-- The resources that all pages share. -/
def resources (f : File) : Object :=
  let fonts := FontFace.all.mapIdx fun i face =>
    (face.resourceName, Object.reference (firstFont + i))
  let images :=
    match f.logo with
    | none => []
    | some _ => [("XObject", Object.dictionary [(logoName, .reference logoNumber)])]
  .dictionary (("Font", .dictionary fonts) :: images)

/-- The bytes of the content of a page. -/
def contentBytes (p : PageObject) : List UInt8 := p.content.flatMap fun op => op.line ++ [0x0A]

/-- A page and its content, from a number on. -/
def pageBodies (number : Nat) (p : PageObject) : List Body := [
  .object (.dictionary [
    ("Type", .name "Page"), ("Parent", .reference pagesNumber),
    ("Contents", .reference (number + 1)), ("Resources", .reference resourcesNumber),
    ("MediaBox", .array (p.mediaBox.map Object.real))]),
  .stream [] (contentBytes p)]

/-- The bytes of a text in UTF-8. -/
def textObject (text : String) : Object := .string text.toUTF8.toList

/-- The objects of a file. -/
def bodies (f : File) : List Body :=
  let kids := (List.range f.pages.length).map fun i => Object.reference (f.firstPage + 2 * i)
  [.object (.dictionary [("Type", .name "Catalog"), ("Pages", .reference pagesNumber)]),
    .object (.dictionary [("Type", .name "Pages"), ("Kids", .array kids),
      ("Count", .integer f.pages.length)]),
    .object (.dictionary [
      ("Title", textObject f.info.title), ("Author", textObject f.info.author),
      ("Producer", textObject f.info.producer), ("Subject", textObject f.info.subject)]),
    .object f.resources] ++
    FontFace.all.map (fun face => .object (fontObject face)) ++
    (match f.logo with
      | none => []
      | some image => logoBodies image) ++
    (f.pages.mapIdx fun i p => pageBodies (f.firstPage + 2 * i) p).flatten

/-- The bytes of a file. -/
def bytes (f : File) : List UInt8 := fileBytes version f.bodies catalogNumber infoNumber

end SlideDeck.Pdf.File
