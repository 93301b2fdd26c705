import SlideDeck.Component.Basic

/-! # Blueprints

A blueprint is a list of slides by position: a component and a payload each, and
mostly a snapshot of the component, so that a stored blueprint renders the same
whatever becomes of the catalogue. Entries are only appended or moved. A blueprint is
dense when its positions count up from zero.
-/

namespace SlideDeck

open Json (Decoder)

/-- What a slide needs of its component. -/
structure Snapshot where
  version : Version
  engineMinVersion : String
  dataSchema : Schema
  renderProgram : RenderProgram

/-- The snapshot of a component. -/
def Snapshot.of (c : Component) : Snapshot where
  version := c.version
  engineMinVersion := c.engineMinVersion
  dataSchema := c.dataSchema
  renderProgram := c.renderProgram

/-- One slide of a blueprint. -/
structure BlueprintEntry where
  position : Nat
  componentId : String
  data : Json
  snapshot : Option Snapshot

/-- The slide of a component, with its snapshot. -/
def BlueprintEntry.of (position : Nat) (c : Component) (data : Json) : BlueprintEntry where
  position := position
  componentId := c.id
  data := data
  snapshot := some (Snapshot.of c)

/-- Why a blueprint cannot be used, or a move cannot be made. -/
inductive BlueprintError
  | empty
  | duplicatePosition (position : Nat)
  | outOfRange (position : Nat)
deriving DecidableEq, Repr

/-- The message of an error. -/
def BlueprintError.message : BlueprintError → String
  | .empty => "Blueprint has no entries"
  | .duplicatePosition position => s!"Duplicate position {position}"
  | .outOfRange position => s!"Position {position} is out of range"

/-- The slides of a deck. -/
structure Blueprint where
  entries : List BlueprintEntry

namespace Blueprint

/-- A blueprint without slides. -/
def empty : Blueprint := ⟨[]⟩

/-- The number of slides. -/
def size (b : Blueprint) : Nat := b.entries.length

/-- Appends a slide at the position that is the number of slides so far. -/
def push (b : Blueprint) (c : Component) (data : Json) : Blueprint :=
  ⟨b.entries ++ [BlueprintEntry.of b.size c data]⟩

/-- The slides in the order of their positions; slides of one position keep their
order. -/
def sorted (b : Blueprint) : Blueprint :=
  ⟨b.entries.mergeSort fun x y => x.position ≤ y.position⟩

/-- The slides with the positions from a number on. -/
def renumber (start : Nat) : List BlueprintEntry → List BlueprintEntry
  | [] => []
  | e :: rest => { e with position := start } :: renumber (start + 1) rest

/-- The slides in their stored order, with the positions from zero on. -/
def densify (b : Blueprint) : Blueprint := ⟨renumber 0 b.entries⟩

/-- Moves the slide at one place to another; those in between close up. -/
def reposition (b : Blueprint) (source target : Nat) : Except BlueprintError Blueprint :=
  if b.size ≤ source then .error (.outOfRange source)
  else if b.size ≤ target then .error (.outOfRange target)
  else
    let entries := b.sorted.entries
    match entries[source]? with
    | none => .error (.outOfRange source)
    | some entry => .ok (densify ⟨(entries.eraseIdx source).insertIdx target entry⟩)

/-- The first position that an earlier slide has already. -/
def repeatedPosition? : (seen : List Nat) → List BlueprintEntry → Option Nat
  | _, [] => none
  | seen, e :: rest =>
    if seen.contains e.position then some e.position
    else repeatedPosition? (e.position :: seen) rest

/-- A blueprint has to have slides, all of them at different positions. -/
def check (b : Blueprint) : Except BlueprintError Unit :=
  if b.entries.isEmpty then .error .empty
  else
    match repeatedPosition? [] b.entries with
    | some position => .error (.duplicatePosition position)
    | none => .ok ()

/-- The positions count up from a number. -/
def countsFrom (start : Nat) : List BlueprintEntry → Bool
  | [] => true
  | e :: rest => e.position == start && countsFrom (start + 1) rest

/-- The positions count up from zero. -/
def isDense (b : Blueprint) : Bool := countsFrom 0 b.entries

end Blueprint

/-! ## JSON forms -/

namespace Snapshot

/-- The JSON form of a snapshot. -/
def toJson (s : Snapshot) : Json :=
  Json.ofMembers [
    ("version", .string s.version.text), ("engineMinVersion", .string s.engineMinVersion),
    ("dataSchema", s.dataSchema.toJson), ("renderProgram", s.renderProgram.toJson)]

/-- Decodes a snapshot. -/
def decode : Decoder Snapshot := fun d => do
  let r ← d.record? ["version", "engineMinVersion", "dataSchema", "renderProgram"]
  return {
    version := ← r.required "version" Version.decode
    engineMinVersion := ← r.required "engineMinVersion" Decoder.string
    dataSchema := ← r.required "dataSchema" Schema.decode
    renderProgram := ← r.required "renderProgram" RenderProgram.decode }

end Snapshot

namespace BlueprintEntry

/-- The JSON form of a slide; a snapshot is written if there is one. -/
def toJson (e : BlueprintEntry) : Json :=
  Json.ofMembers ([
    ("position", .ofNat e.position), ("componentId", .string e.componentId),
    ("data", e.data)] ++ Json.memberIf "snapshot" e.snapshot Snapshot.toJson)

/-- Decodes a slide. -/
def decode : Decoder BlueprintEntry := fun d => do
  let r ← d.record? ["position", "componentId", "data", "snapshot"]
  return {
    position := ← r.required "position" Decoder.nat
    componentId := ← r.required "componentId" Decoder.string
    data := ← r.required "data" Decoder.any
    snapshot := ← r.nullable "snapshot" Snapshot.decode }

end BlueprintEntry

namespace Blueprint

/-- The JSON form of a blueprint: the list of its slides. -/
def toJson (b : Blueprint) : Json := .array (b.entries.map BlueprintEntry.toJson)

/-- Decodes a blueprint. -/
def decode : Decoder Blueprint := fun d =>
  (Decoder.list BlueprintEntry.decode d).map Blueprint.mk

end Blueprint

end SlideDeck
