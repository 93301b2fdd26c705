/-! # Artifacts

A finished deck is kept as an artifact under a name made of the id of its request and
an extension for its type. Ids come from outside, so only ids of letters, digits, `-`
and `_` become names: such a name is a single part of a path and never the temporary
name of another artifact.
-/

namespace SlideDeck

/-- Why an artifact is not stored. -/
inductive SinkError
  | invalidKey (requestId : String)
  | writeFailed (reason : String)
deriving DecidableEq, Repr

/-- The message of an error. -/
def SinkError.message : SinkError → String
  | .invalidKey requestId => s!"Invalid request id: {requestId}"
  | .writeFailed reason => s!"Storage write failed: {reason}"

namespace Artifact

/-- The content type of PDF files. -/
def pdfType : String := "application/pdf"

/-- The extension for a content type. -/
def extension (contentType : String) : String :=
  if contentType = pdfType then "pdf"
  else if contentType = "application/json" then "json"
  else "bin"

/-- The characters that ids are made of. -/
def isKeyChar (c : Char) : Bool := c.isAlphanum || c == '-' || c == '_'

/-- An id that becomes a name. -/
def isKey (requestId : String) : Bool :=
  !requestId.toList.isEmpty && requestId.toList.all isKeyChar

/-- The name of an artifact. -/
def name (requestId contentType : String) : Except SinkError String :=
  if isKey requestId then .ok s!"{requestId}.{extension contentType}"
  else .error (.invalidKey requestId)

/-- The name of an artifact while it is being written. -/
def partialName (name : String) : String := s!".{name}.partial"

end Artifact

end SlideDeck
