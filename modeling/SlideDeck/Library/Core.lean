import SlideDeck.Library.Titles
import SlideDeck.Library.Figures
import SlideDeck.Library.Processes
import SlideDeck.Library.Frameworks
import SlideDeck.Library.Comparisons
import SlideDeck.Library.Narratives
import SlideDeck.Library.Closings

/-! # The core library

The twenty components that every registry can be seeded with, in their order.
-/

namespace SlideDeck.Library

/-- The components of the core library in the order of seeding. -/
def core : List Component := [
  statsCover, minimalCover, impactCover, sectionDivider, tableOfContents, kpiDashboard,
  heroMetric, comparisonBars, timelineHorizontal, processFlow, numberedSteps, swotGrid,
  matrix2x2, threePillars, pyramid3Level, beforeAfter, prosCons, fullTextNarrative,
  quotePullout, thankYou]

/-- The core component of an id. -/
def find? (id : String) : Option Component := core.find? fun c => c.id == id

end SlideDeck.Library
