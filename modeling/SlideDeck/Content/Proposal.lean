import SlideDeck.Content.Reply

/-! # Proposals of a mapper

A mapper proposes slides: positions, components and payloads. Proposals are advice;
nothing about them is taken for granted.
-/

namespace SlideDeck

open Json (Decoder)

/-- A slide that a mapper proposes. -/
structure ProposedSlide where
  position : Nat
  componentId : String
  data : Json

/-- All slides that a mapper proposes. -/
structure Proposal where
  entries : List ProposedSlide

namespace ProposedSlide

/-- The JSON form of a proposed slide. -/
def toJson (s : ProposedSlide) : Json :=
  Json.ofMembers [("position", .ofNat s.position), ("componentId", .string s.componentId),
    ("data", s.data)]

/-- Decodes a proposed slide; one without data proposes null. -/
def decode : Decoder ProposedSlide := fun d => do
  let r ← d.record? ["position", "componentId", "data"]
  return {
    position := ← r.required "position" Decoder.nat
    componentId := ← r.required "componentId" Decoder.string
    data := ← r.optional "data" .null Decoder.any }

end ProposedSlide

namespace Proposal

/-- The JSON form of a proposal. -/
def toJson (p : Proposal) : Json :=
  Json.ofMembers [("entries", .array (p.entries.map ProposedSlide.toJson))]

/-- Decodes a proposal. -/
def decode : Decoder Proposal := fun d => do
  let r ← d.record? ["entries"]
  return ⟨← r.required "entries" (Decoder.list ProposedSlide.decode)⟩

/-- A bracket comes before every brace of a text. -/
def startsWithBracket : List Char → Bool
  | [] => false
  | '[' :: _ => true
  | '{' :: _ => false
  | _ :: rest => startsWithBracket rest

/-- The proposal that a reply holds: an array of slides, if a bracket comes first and
is closed, else an object with entries. -/
def ofReply (reply : String) : Except CapabilityError Proposal :=
  let cs := Text.trimChars reply.toList
  let decoded (p : Option Proposal) : Except CapabilityError Proposal :=
    match p with
    | some p => .ok p
    | none => .error (.malformed "mapper" .undecodable)
  match if startsWithBracket cs then Reply.between? '[' ']' cs else none with
  | some text =>
    decoded <| do
      let draft ← Json.Draft.parse? (String.ofList text)
      return ⟨← Decoder.list ProposedSlide.decode draft⟩
  | none =>
    match Reply.object? cs with
    | some text => decoded ((Json.Draft.parse? (String.ofList text)).bind decode)
    | none => .error (.malformed "mapper" .noJson)

end Proposal

end SlideDeck
