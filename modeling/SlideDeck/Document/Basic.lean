import SlideDeck.Theme.Basic

/-! # Documents

A document is the composed deck: its pages in the order of their positions, the theme
they share and a hash over everything that the pages depend on.
-/

namespace SlideDeck

/-- A composed deck. -/
structure Document where
  title : String
  canvas : Canvas
  theme : Theme
  pages : List Page
  /-- The hash of the engine version, the theme and the render keys of the pages. -/
  manifestHash : String

namespace Document

/-- Who documents are by. -/
def author : String := "DeckForge"

/-- What documents are made with. -/
def producer : String := "DeckForge"

/-- What documents are about. -/
def subject : String := "Generated Presentation"

/-- The title of documents that are given none. -/
def defaultTitle : String := "Presentation"

/-- The number of pages. -/
def pageCount (d : Document) : Nat := d.pages.length

/-- The number of pages that show the failure notice. -/
def placeholderCount (d : Document) : Nat := (d.pages.filter Page.isPlaceholder).length

end Document

end SlideDeck
