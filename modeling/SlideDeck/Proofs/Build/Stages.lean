import SlideDeck.Build.Generate

/-!
# What the first stages of a build come to

A build starts with the public components and then waits twice. A wait fails only where the
request is cancelled. Otherwise there is an answer, and it is known whether the request has been
cancelled by then. All that a build takes from its two answers is content and proposals: the text
itself stands in for content that is not there, and there need not be proposals. What does not
come leaves a warning.
-/

namespace SlideDeck

/-! ## The catalogue -/

namespace Catalogue

variable {k : Catalogue}

end Catalogue

/-! ## Waits -/

/-- The request is cancelled while the capability is awaited, perhaps by the capability. -/
def Waiting.cancels {α : Type} : Waiting α → Bool
  | .answered _ cancels => cancels
  | .cancelled => true
  | .expired cancels => cancels

section Waits

variable {α : Type} {capability : String} {limit : Nat} {cancelled after : Bool}
  {waiting : Waiting α} {answer : Answer α}

end Waits

/-! ## The parser -/

namespace Waiting

/-- The content that a build goes on with. -/
def contentFor (text : String) : Waiting Content → Content
  | .answered (.ok content) _ =>
    if content.sections.isEmpty then .standIn text else content
  | _ => .standIn text

/-- What is to be said about content that did not come. -/
def parserWarnings (limit : Nat) : Waiting Content → List AssemblyWarning
  | .answered (.ok content) _ =>
    if content.sections.isEmpty then [.parserFallback "parser returned no sections"] else []
  | .answered (.error (.unavailable _)) _ => [.parserFallback "parser unavailable"]
  | .answered (.error e) _ => [.parserFallback e.message]
  | .expired _ => [.parserFallback s!"parser timed out after {durationText limit}"]
  | .cancelled => []

/-- What is to be said about proposals that did not come. -/
def mapperWarnings (limit : Nat) : Waiting Proposal → List AssemblyWarning
  | .answered (.ok _) _ | .answered (.error (.unavailable _)) _ | .cancelled => []
  | .answered (.error e) _ => [.mapperFallback e.message]
  | .expired _ => [.mapperFallback s!"mapper timed out after {durationText limit}"]

end Waiting

/-! ## What a build asks for -/

namespace Capabilities

/-- Waiting for the parser of a request. -/
def parsing (capabilities : Capabilities) (request : BuildRequest) : Waiting Content :=
  capabilities.parser request.text request.params

/-- The content that a build goes on with. -/
def content (capabilities : Capabilities) (request : BuildRequest) : Content :=
  (capabilities.parsing request).contentFor request.text

end Capabilities

section Stages

variable {settings : Configuration} {capabilities : Capabilities} {k : Catalogue}
  {request : BuildRequest} {cancelled afterParser afterMapper : Bool}
  {components : List Component} {parsed : Answer Content} {mapped : Answer Proposal}
  {e : BuildError}

end Stages

end SlideDeck
