import SlideDeck.Build.Basic

/-! # Generation of decks

A request is parsed, mapped, assembled, composed, written and stored, in this order.
Parser and mapper failures only degrade the deck and leave a warning; all else that
fails ends the build. The uses of components are counted after the deck is stored, so
a build that fails leaves no trace.
-/

namespace SlideDeck

/-- What a capability is good for after it was awaited. -/
inductive Answer (α : Type)
  | ready (value : α)
  | degraded (reason : String)
  | unavailable

/-- Awaits a capability. A request that is cancelled already does not ask it. What
comes back tells too whether the request is cancelled by then. -/
def await {α : Type} (capability : String) (limit : Nat) (cancelled : Bool)
    (waiting : Waiting α) : Except BuildError (Answer α × Bool) :=
  if cancelled then .error .cancelled
  else
    match waiting with
    | .cancelled => .error .cancelled
    | .expired cancels =>
      .ok (.degraded s!"{capability} timed out after {durationText limit}", cancels)
    | .answered (.ok value) cancels => .ok (.ready value, cancels)
    | .answered (.error (.unavailable _)) cancels => .ok (.unavailable, cancels)
    | .answered (.error e) cancels => .ok (.degraded e.message, cancels)

/-- The content of a parser's answer. Where there is none, the text itself stands
in. -/
def contentOrText (text : String) : Answer Content → Content × List AssemblyWarning
  | .ready content =>
    if content.sections.isEmpty then
      (Content.standIn text, [.parserFallback "parser returned no sections"])
    else (content, [])
  | .degraded reason => (Content.standIn text, [.parserFallback reason])
  | .unavailable => (Content.standIn text, [.parserFallback "parser unavailable"])

/-- The proposals of a mapper's answer. A mapper that is not there is no failure. -/
def proposalOrNone : Answer Proposal → Option Proposal × List AssemblyWarning
  | .ready proposal => (some proposal, [])
  | .degraded reason => (none, [.mapperFallback reason])
  | .unavailable => (none, [])

/-- An error in the terms of a build. -/
def BuildError.wrap {ε α : Type} (error : ε → BuildError) : Except ε α → Except BuildError α
  | .ok a => .ok a
  | .error e => .error (error e)

/-- Everything up to the finished file. -/
def finishDeck (settings : Configuration) (capabilities : Capabilities) (k : Catalogue)
    (request : BuildRequest) (cancelled : Bool) : Except BuildError FinishedDeck := do
  let components ← BuildError.wrap .catalogue k.available
  let (parsed, cancelled) ← await "parser" settings.parserTimeout cancelled
    (capabilities.parser request.text request.params)
  let (content, parserWarnings) := contentOrText request.text parsed
  let (mapped, cancelled) ← await "mapper" settings.mapperTimeout cancelled
    (capabilities.mapper content components request.params)
  let (proposal, mapperWarnings) := proposalOrNone mapped
  let assembly ← BuildError.wrap .assembly
    (assemble {} content components request.params proposal)
  if cancelled then .error .cancelled
  else
    let document ← BuildError.wrap .composition
      (assembly.blueprint.compose k settings.limits request.theme content.title)
    let file ← BuildError.wrap .pdf (Pdf.File.ofDocument capabilities.writer document)
    return {
      document := document
      file := file
      blueprint := assembly.blueprint
      strategy := assembly.strategy
      warnings := parserWarnings ++ mapperWarnings ++ assembly.warnings }

/-- Counts the uses of components by their ids; ids that are not stored count for
nothing. -/
def Catalogue.countUses (k : Catalogue) : List String → Catalogue
  | [] => k
  | id :: rest =>
    match k.increment id with
    | .ok (_, next) => next.countUses rest
    | .error _ => k.countUses rest

/-- Hands a file to the sink. -/
def deliver {σ : Type} (settings : Configuration) (sink : Sink σ) (held : σ)
    (requestId : String) (file : Pdf.File) : Except BuildError (String × σ) :=
  match sink held requestId Artifact.pdfType file with
  | .stored location held => .ok (location, held)
  | .refused e => .error (.sink e)
  | .silent => .error (.sinkTimeout settings.sinkTimeout)

/-- What a build leaves behind. -/
structure BuildReport (σ : Type) where
  result : Except BuildError BuildOutcome
  /-- The statuses of the build, from the first one on. -/
  statuses : List BuildStatus
  catalogue : Catalogue
  /-- What the sink holds. -/
  shelf : σ

/-- Runs a build on a catalogue and a sink. -/
def generateInto {σ : Type} (settings : Configuration) (capabilities : Capabilities)
    (sink : Sink σ) (k : Catalogue) (held : σ) (request : BuildRequest) (cancelled : Bool) :
    BuildReport σ :=
  let failure (e : BuildError) : BuildReport σ :=
    ⟨.error e, [.draft, .generating, .error], k, held⟩
  match finishDeck settings capabilities k request cancelled with
  | .error e => failure e
  | .ok deck =>
    match deliver settings sink held request.id deck.file with
    | .error e => failure e
    | .ok (location, held) =>
      let used := deck.blueprint.entries.map BlueprintEntry.componentId
      ⟨.ok (deck.delivered location), [.draft, .generating, .ready], k.countUses used, held⟩

/-- Runs a build on a catalogue and a shelf. -/
def generate (settings : Configuration) (capabilities : Capabilities) (k : Catalogue)
    (shelf : Shelf Pdf.File) (request : BuildRequest) (cancelled : Bool) :
    BuildReport (Shelf Pdf.File) :=
  generateInto settings capabilities (capabilities.sink request.id).sink k shelf request
    cancelled

end SlideDeck
