import SlideDeck.Content.Outline
import SlideDeck.Json.Parser

/-! # Replies of capabilities

Parsing and mapping can be left to a capability outside the engine, which replies
with JSON among other text. A capability may fail in several ways; none of them
stops a build.
-/

namespace SlideDeck

open Json (Decoder)

/-- What is wrong with a reply. -/
inductive ReplyFault
  | noObject
  | noJson
  | noSections
  /-- There is JSON, but not of the form that is asked for. -/
  | undecodable
deriving DecidableEq, Repr

/-- The wording of a fault. -/
def ReplyFault.message : ReplyFault → String
  | .noObject => "no JSON object in reply"
  | .noJson => "no JSON in reply"
  | .noSections => "no sections"
  | .undecodable => "undecodable JSON"

/-- Why a capability has no result. -/
inductive CapabilityError
  | unavailable (capability : String)
  | malformed (capability : String) (fault : ReplyFault)
  | failed (capability reason : String)
deriving DecidableEq, Repr

/-- The message of an error. -/
def CapabilityError.message : CapabilityError → String
  | .unavailable capability => s!"{capability} is not available"
  | .malformed capability fault => s!"{capability} returned malformed output: {fault.message}"
  | .failed capability reason => s!"{capability} failed: {reason}"

namespace Reply

/-- The characters up to the last occurrence of one, which is the last of them. -/
def upToLast (last : Char) (cs : List Char) : List Char :=
  Text.dropWhileEnd (fun c => c != last) cs

/-- The part of a text from the first occurrence of one character to the last one of
another. -/
def between? (first last : Char) (cs : List Char) : Option (List Char) :=
  match upToLast last (cs.dropWhile fun c => c != first) with
  | [] => none
  | part => some part

/-- The object in a reply, braces included. -/
def object? (reply : List Char) : Option (List Char) := between? '{' '}' reply

/-- The content that a reply holds. It has to have sections. -/
def content (reply : String) : Except CapabilityError Content :=
  match object? reply.toList with
  | none => .error (.malformed "parser" .noObject)
  | some text =>
    match (Json.Draft.parse? (String.ofList text)).bind Content.decode with
    | none => .error (.malformed "parser" .undecodable)
    | some c => if c.sections.isEmpty then .error (.malformed "parser" .noSections) else .ok c

end Reply

/-- The content of an outline; a blank one is a failure. -/
def Outline.parse (text : String) : Except CapabilityError Content :=
  match Outline.parse? text with
  | some c => .ok c
  | none => .error (.failed "heuristic parser" "input is empty")

end SlideDeck
