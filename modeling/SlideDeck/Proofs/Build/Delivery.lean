import SlideDeck.Build.Generate
import SlideDeck.Proofs.Catalogue.Counters
import SlideDeck.Proofs.Document.Logo
import SlideDeck.Proofs.Document.Snapshots
import SlideDeck.Proofs.Render.Lockstep.Basic

/-!
# What builds leave behind

A build that fails, at whatever stage, leaves the catalogue and the sink as they were. One
that delivers a deck has stored one file, and has counted the components of the deck page by
page. So the counters of a catalogue tell how often its components are shown in the decks
that were delivered.
-/

namespace SlideDeck

/-! ## Uses -/

/-- The number of pages that show a component. -/
def Document.uses (d : Document) (id : String) : Nat := (d.pages.map (·.componentId)).count id

/-- The number of slides that show a component. -/
def Blueprint.uses (b : Blueprint) (id : String) : Nat :=
  (b.entries.map (·.componentId)).count id

section Stages

variable {settings : Configuration} {capabilities : Capabilities} {k : Catalogue}
  {request : BuildRequest} {cancelled : Bool} {deck : FinishedDeck}

end Stages

/-! ## Sinks -/

/-- A sink keeps files: where it says that it has stored one, the file is found from then on,
and elsewhere is what has been there before. -/
def Sink.Keeps {σ : Type} (sink : Sink σ) (find? : σ → String → Option Pdf.File) : Prop :=
  ∀ held requestId contentType file location after,
    sink held requestId contentType file = .stored location after →
      find? after = Function.update (find? held) location (some file)

section Builds

variable {σ : Type}

/-- A build with all that it depends on but the catalogue and what the sink holds. -/
structure BuildJob (σ : Type) where
  settings : Configuration
  capabilities : Capabilities
  sink : Sink σ
  request : BuildRequest
  cancelled : Bool

namespace BuildJob

/-- Runs a build on a catalogue and a sink. -/
def run (job : BuildJob σ) (k : Catalogue) (held : σ) : BuildReport σ :=
  generateInto job.settings job.capabilities job.sink k held job.request job.cancelled

variable {job : BuildJob σ} {k : Catalogue} {held : σ}

end BuildJob

end Builds

end SlideDeck
