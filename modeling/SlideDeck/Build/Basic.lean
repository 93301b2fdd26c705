import SlideDeck.Artifact.Shelf
import SlideDeck.Assembly.Assemble
import SlideDeck.Configuration.Basic
import SlideDeck.Document.Composing
import SlideDeck.Pdf.File

/-! # Builds

A build turns one request into a stored deck. It depends on capabilities outside the
engine, a parser, a mapper and a sink, each of which is awaited for a limited time
only, and on a writer of files. What such a wait comes to is a value here, so that a
build is a function of the request, the catalogue and these values.
-/

namespace SlideDeck

/-- What happens while a capability is awaited. -/
inductive Waiting (α : Type)
  /-- The capability answers in time. It may cancel the request when it does. -/
  | answered (reply : Except CapabilityError α) (cancels : Bool)
  /-- The request is found to be cancelled before there is an answer. -/
  | cancelled
  /-- The time is over before either. The capability is asked once more before the time is
  looked at, and may cancel the request even then. -/
  | expired (cancels : Bool)

/-- What a sink makes of an artifact. -/
inductive SinkReply (σ : Type)
  /-- The artifact is stored at a location, and the sink holds more from then on. -/
  | stored (location : String) (held : σ)
  | refused (e : SinkError)
  /-- The sink neither stores nor answers. -/
  | silent

/-- A sink, by what it makes of a file for a request when it holds something already. -/
abbrev Sink (σ : Type) := (held : σ) → (requestId contentType : String) → Pdf.File → SinkReply σ

/-- What a shelf does with an artifact. -/
inductive SinkReaction
  | stores
  | refuses (e : SinkError)
  | silent
deriving DecidableEq, Repr

/-- A shelf as a sink. -/
def SinkReaction.sink : SinkReaction → Sink (Shelf Pdf.File)
  | .stores, shelf, requestId, contentType, file =>
    match shelf.store requestId contentType file with
    | .ok (name, shelf) => .stored (Shelf.location name) shelf
    | .error e => .refused e
  | .refuses e, _, _, _, _ => .refused e
  | .silent, _, _, _, _ => .silent

/-- A request for a deck. -/
structure BuildRequest where
  id : String
  text : String
  params : Parameters
  theme : Theme

/-- The capabilities that a build depends on. -/
structure Capabilities where
  parser : String → Parameters → Waiting Content
  mapper : Content → List Component → Parameters → Waiting Proposal
  sink : String → SinkReaction
  writer : Pdf.Writer

namespace Capabilities

/-- The parser of outlines answers at once. -/
def outlineParser (text : String) (_ : Parameters) : Waiting Content :=
  .answered (Outline.parse text) false

/-- The mapper that proposes nothing. -/
def noMapper (_ : Content) (_ : List Component) (_ : Parameters) : Waiting Proposal :=
  .answered (.error (.unavailable "mapper")) false

/-- The capabilities of the engine alone: outlines, rules, and a sink that stores. -/
def standard : Capabilities where
  parser := outlineParser
  mapper := noMapper
  sink := fun _ => .stores
  writer := .standard

end Capabilities

/-- How far a build is. -/
inductive BuildStatus
  | draft
  | generating
  | ready
  | error
deriving DecidableEq, Repr

/-- The name of a status. -/
def BuildStatus.name : BuildStatus → String
  | .draft => "draft"
  | .generating => "generating"
  | .ready => "ready"
  | .error => "error"

/-- A number of milliseconds with its unit: seconds with as many digits of a fraction
as it takes, milliseconds below one second, and nanoseconds for none at all. -/
def durationText (milliseconds : Nat) : String :=
  if milliseconds = 0 then "0ns"
  else if milliseconds < 1000 then s!"{milliseconds}ms"
  else
    let rest := milliseconds % 1000
    let fraction :=
      if rest = 0 then ""
      else if rest % 100 = 0 then s!".{rest / 100}"
      else if rest % 10 = 0 then s!".{rest / 100}{rest / 10 % 10}"
      else s!".{rest / 100}{rest / 10 % 10}{rest % 10}"
    s!"{milliseconds / 1000}{fraction}s"

/-- Why a request comes to nothing. -/
inductive BuildError
  | catalogue (fault : CatalogueError)
  | assembly (fault : AssemblyError)
  | composition (fault : CompositionError)
  | pdf (fault : Pdf.WriteError)
  | sink (fault : SinkError)
  | sinkTimeout (limit : Nat)
  | cancelled
deriving DecidableEq, Repr

/-- The message of an error. -/
def BuildError.message : BuildError → String
  | .catalogue fault => fault.message
  | .assembly fault => fault.message
  | .composition fault => fault.message
  | .pdf fault => fault.message
  | .sink fault => s!"Artifact sink failed: {fault.message}"
  | .sinkTimeout limit => s!"Artifact sink timed out after {durationText limit}"
  | .cancelled => "Generation was cancelled"

/-- A deck that is ready to be stored. -/
structure FinishedDeck where
  document : Document
  file : Pdf.File
  blueprint : Blueprint
  strategy : AssemblyStrategy
  warnings : List AssemblyWarning

/-- What a successful build delivers. -/
structure BuildOutcome where
  document : Document
  slideCount : Nat
  location : String
  strategy : AssemblyStrategy
  warnings : List AssemblyWarning

/-- The outcome of a deck that is stored at a location. -/
def FinishedDeck.delivered (d : FinishedDeck) (location : String) : BuildOutcome where
  document := d.document
  slideCount := d.document.pageCount
  location := location
  strategy := d.strategy
  warnings := d.warnings

end SlideDeck
