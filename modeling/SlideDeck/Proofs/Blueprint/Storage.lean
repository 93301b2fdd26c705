import SlideDeck.Blueprint.Basic
import SlideDeck.Library.Titles
import SlideDeck.Proofs.Program.Instructions
import SlideDeck.Proofs.Schema.Storage
import SlideDeck.Proofs.Versions

/-!
# Blueprints that have been written

A slide comes back from its form together with its snapshot, and so do its schema and its program.
What does not come back is what no text holds: numbers that are not finite, counts beyond 64 bits,
payloads and schemas with names out of order. Nothing of this kind is ever decoded, so whatever has
been decoded once is decoded again from its own form.
-/

namespace SlideDeck

open Json (Draft Decoder recordOf required_recordOf nullable_recordOf_map)

theorem Version.decode_text {v : Version} (h : v.WellFormed) :
    decode (Draft.ofJson (.string v.text)) = some v := by
  rw [decode, Json.string_ofJson, Option.bind_some]
  exact parse?_text h

namespace Snapshot

/-- The parts of a snapshot are ones that a text can hold. -/
structure WellFormed (s : Snapshot) : Prop where
  version : s.version.WellFormed
  dataSchema : s.dataSchema.WellFormed
  renderProgram : s.renderProgram.HasFiniteLiterals

/-- The members that are written for a snapshot. -/
def members (s : Snapshot) : List (String × Json) := [
  ("version", .string s.version.text), ("engineMinVersion", .string s.engineMinVersion),
  ("dataSchema", s.dataSchema.toJson), ("renderProgram", s.renderProgram.toJson)]

theorem decode_toJson {s : Snapshot} (h : s.WellFormed) :
    decode (Draft.ofJson s.toJson) = some s := by
  have hnames : (s.members.map Prod.fst).Nodup := by simp [members]
  have hversion : (recordOf s.members).required "version" Version.decode = some s.version :=
    required_recordOf rfl (Version.decode_text h.version)
  have hengine : (recordOf s.members).required "engineMinVersion" Decoder.string =
      some s.engineMinVersion :=
    required_recordOf rfl (Json.string_ofJson _)
  have hschema : (recordOf s.members).required "dataSchema" Schema.decode = some s.dataSchema :=
    required_recordOf rfl (Schema.decode_toJson h.dataSchema)
  have hprogram : (recordOf s.members).required "renderProgram" RenderProgram.decode =
      some s.renderProgram :=
    required_recordOf rfl (RenderProgram.decode_toJson h.renderProgram)
  have hform : s.toJson = Json.ofMembers s.members := rfl
  rw [hform]
  simp only [decode, Json.record?_ofMembers hnames, Option.bind_eq_bind, Option.bind_some, hversion,
    hengine, hschema, hprogram]
  rfl

/-- A snapshot that has been decoded is well formed. -/
theorem wellFormed_of_decode {d : Draft} {s : Snapshot} (h : decode d = some s) :
    s.WellFormed := by
  simp only [decode, Option.bind_eq_bind, Option.bind_eq_some_iff] at h
  obtain ⟨r, _, version, hversion, _, _, schema, hschema, program, hprogram, ⟨⟩⟩ := h
  obtain ⟨_, hversion⟩ := Json.exists_of_required hversion
  obtain ⟨text, _, hparse⟩ := Option.bind_eq_some_iff.mp hversion
  obtain ⟨_, hschema⟩ := Json.exists_of_required hschema
  obtain ⟨_, hprogram⟩ := Json.exists_of_required hprogram
  exact ⟨Version.wellFormed_of_parse? hparse, Schema.wellFormed_of_decode hschema,
    RenderProgram.hasFiniteLiterals_of_decode hprogram⟩

end Snapshot

namespace BlueprintEntry

/-- The position fits 64 bits, the payload is in normal form, and so on for the snapshot. -/
structure WellFormed (e : BlueprintEntry) : Prop where
  position : e.position < UInt64.size
  data : e.data.IsNormal
  snapshot : ∀ s ∈ e.snapshot, s.WellFormed

/-- The members that are written for a slide. -/
def members (e : BlueprintEntry) : List (String × Json) :=
  [("position", .ofNat e.position), ("componentId", .string e.componentId), ("data", e.data)] ++
    Json.memberIf "snapshot" e.snapshot Snapshot.toJson

theorem names_nodup (e : BlueprintEntry) : (e.members.map Prod.fst).Nodup := by
  have hsublist : (e.members.map Prod.fst).Sublist
      ["position", "componentId", "data", "snapshot"] := by
    rw [members, List.map_append]
    exact (List.Sublist.refl ["position", "componentId", "data"]).append
      (Json.memberIf_names_sublist _ _ _)
  exact hsublist.nodup (by decide)

theorem decode_toJson {e : BlueprintEntry} (h : e.WellFormed) :
    decode (Draft.ofJson e.toJson) = some e := by
  have hposition : (recordOf e.members).required "position" Decoder.nat = some e.position :=
    required_recordOf rfl (Json.nat_ofNat h.position)
  have hid : (recordOf e.members).required "componentId" Decoder.string = some e.componentId :=
    required_recordOf rfl (Json.string_ofJson _)
  have hdata : (recordOf e.members).required "data" Decoder.any = some e.data :=
    required_recordOf rfl (Draft.value?_ofJson e.data h.data)
  have hlookup : e.members.lookup "snapshot" = e.snapshot.map Snapshot.toJson := by
    simp [members, List.lookup_cons, Json.lookup_memberIf]
  have hsnapshot : (recordOf e.members).nullable "snapshot" Snapshot.decode = some e.snapshot :=
    nullable_recordOf_map hlookup fun s hs =>
      ⟨Snapshot.decode_toJson (h.snapshot s hs), Json.noConfusion⟩
  have hform : e.toJson = Json.ofMembers e.members := rfl
  rw [hform]
  simp only [decode, Json.record?_ofMembers e.names_nodup, Option.bind_eq_bind, Option.bind_some,
    hposition, hid, hdata, hsnapshot]
  rfl

/-- A slide that has been decoded is well formed. -/
theorem wellFormed_of_decode {d : Draft} {e : BlueprintEntry} (h : decode d = some e) :
    e.WellFormed := by
  simp only [decode, Option.bind_eq_bind, Option.bind_eq_some_iff] at h
  obtain ⟨r, _, position, hposition, _, _, data, hdata, snapshot, hsnapshot, ⟨⟩⟩ := h
  obtain ⟨_, hposition⟩ := Json.exists_of_required hposition
  obtain ⟨draft, hdata⟩ := Json.exists_of_required hdata
  refine ⟨Json.lt_of_nat hposition, Draft.isNormal_of_value? draft hdata, fun s hs => ?_⟩
  obtain ⟨_, hdecode⟩ := Json.exists_of_nullable hsnapshot s hs
  exact Snapshot.wellFormed_of_decode hdecode

end BlueprintEntry

namespace Blueprint

theorem decode_toJson {b : Blueprint} (h : ∀ e ∈ b.entries, e.WellFormed) :
    decode (Draft.ofJson b.toJson) = some b := by
  have hentries := Json.list_map fun e he => BlueprintEntry.decode_toJson (h e he)
  rw [decode, toJson, hentries]
  rfl

theorem wellFormed_of_decode {d : Draft} {b : Blueprint} (h : decode d = some b) :
    ∀ e ∈ b.entries, e.WellFormed := by
  obtain ⟨entries, hentries, rfl⟩ := Option.map_eq_some_iff.mp h
  intro e he
  obtain ⟨_, hdecode⟩ := Json.exists_of_mem_list hentries he
  exact BlueprintEntry.wellFormed_of_decode hdecode

end Blueprint

/-- Programs, schemas and slides survive storage: each comes back from its form, and what has been
decoded from any draft at all, be it written as objects or as arrays, comes back as it has been
decoded. -/
theorem stored_forms_come_back :
    (∀ p : RenderProgram, p.HasFiniteLiterals →
      RenderProgram.decode (Draft.ofJson p.toJson) = some p) ∧
    (∀ s : Schema, s.WellFormed → Schema.decode (Draft.ofJson s.toJson) = some s) ∧
    (∀ e : BlueprintEntry, e.WellFormed →
      BlueprintEntry.decode (Draft.ofJson e.toJson) = some e) ∧
    (∀ b : Blueprint, (∀ e ∈ b.entries, e.WellFormed) →
      Blueprint.decode (Draft.ofJson b.toJson) = some b) ∧
    ∀ d : Draft,
      (∀ p, RenderProgram.decode d = some p →
        RenderProgram.decode (Draft.ofJson p.toJson) = some p) ∧
      (∀ s, Schema.decode d = some s → Schema.decode (Draft.ofJson s.toJson) = some s) ∧
      (∀ e, BlueprintEntry.decode d = some e →
        BlueprintEntry.decode (Draft.ofJson e.toJson) = some e) ∧
      ∀ b, Blueprint.decode d = some b → Blueprint.decode (Draft.ofJson b.toJson) = some b := by
  refine ⟨fun p hp => RenderProgram.decode_toJson hp, fun s hs => Schema.decode_toJson hs,
    fun e he => BlueprintEntry.decode_toJson he, fun b hb => Blueprint.decode_toJson hb, ?_⟩
  intro d
  refine ⟨fun p hp => ?_, fun s hs => ?_, fun e he => ?_, fun b hb => ?_⟩
  · exact RenderProgram.decode_toJson (RenderProgram.hasFiniteLiterals_of_decode hp)
  · exact Schema.decode_toJson (Schema.wellFormed_of_decode hs)
  · exact BlueprintEntry.decode_toJson (BlueprintEntry.wellFormed_of_decode he)
  · exact Blueprint.decode_toJson (Blueprint.wellFormed_of_decode hb)

/-- A slide of the minimal cover, as it is put into a deck. -/
def minimalCoverSlide : BlueprintEntry :=
  .of 4 Library.minimalCover (.object [("title", .string "Quarterly review")])

theorem hasFiniteLiterals_minimalCover : Library.minimalCover.renderProgram.HasFiniteLiterals := by
  have hall : Library.minimalCover.renderProgram.literals.all (·.isFinite) = true := by decide
  exact List.all_eq_true.mp hall

theorem wellFormed_minimalCover_dataSchema : Library.minimalCover.dataSchema.WellFormed := by
  have hleaf : ({ type := some .string } : Schema).WellFormed := .intro .nil nofun nofun nofun
  have hnames :
      List.Pairwise (· < ·) (Library.minimalCover.dataSchema.properties.map Prod.fst) := by
    decide
  refine .intro (List.pairwise_map.mp hnames) nofun nofun fun s hs => ?_
  simp only [Schema.inner, Library.minimalCover, List.map_cons, List.map_nil, Option.toList_none,
    List.append_nil, List.mem_cons, List.not_mem_nil, or_false, or_self] at hs
  exact hs ▸ hleaf

theorem wellFormed_minimalCoverSlide : minimalCoverSlide.WellFormed := by
  refine ⟨by decide, ⟨List.pairwise_singleton _ _, trivial, trivial⟩, ?_⟩
  rintro _ ⟨⟩
  exact ⟨⟨by decide, by decide, by decide, nofun, nofun⟩, wellFormed_minimalCover_dataSchema,
    hasFiniteLiterals_minimalCover⟩

/-- The slide of the minimal cover survives storage with its snapshot, and so does a schema of
which nothing has been written, neither as an object nor as an array. -/
theorem stored_minimalCoverSlide_comes_back :
    Library.minimalCover.renderProgram.HasFiniteLiterals ∧
    Library.minimalCover.dataSchema.WellFormed ∧ minimalCoverSlide.WellFormed ∧
    RenderProgram.decode (Draft.ofJson Library.minimalCover.renderProgram.toJson) =
      some Library.minimalCover.renderProgram ∧
    Schema.decode (Draft.ofJson Library.minimalCover.dataSchema.toJson) =
      some Library.minimalCover.dataSchema ∧
    BlueprintEntry.decode (Draft.ofJson minimalCoverSlide.toJson) = some minimalCoverSlide ∧
    Blueprint.decode (Draft.ofJson (Blueprint.toJson ⟨[minimalCoverSlide]⟩)) =
      some ⟨[minimalCoverSlide]⟩ ∧
    Schema.decode (.object []) = some .anything ∧ Schema.decode (.array []) = some .anything ∧
    Schema.decode (Draft.ofJson Schema.anything.toJson) = some .anything := by
  obtain ⟨hprograms, hschemas, hslides, hdecks, hdecoded⟩ := stored_forms_come_back
  have hanything : Schema.decode (.array []) = some .anything := rfl
  exact ⟨hasFiniteLiterals_minimalCover, wellFormed_minimalCover_dataSchema,
    wellFormed_minimalCoverSlide, hprograms _ hasFiniteLiterals_minimalCover,
    hschemas _ wellFormed_minimalCover_dataSchema, hslides _ wellFormed_minimalCoverSlide,
    hdecks _ (List.forall_mem_singleton.mpr wellFormed_minimalCoverSlide), rfl, hanything,
    (hdecoded (.array [])).2.1 _ hanything⟩

/-- A slide and the schema in its snapshot may be written as arrays, and so may an instruction
with its name in front. -/
example : (BlueprintEntry.decode (.array [.number (.ofNat 0), .string "a", .object []])).map
    BlueprintEntry.toJson = some (Json.ofMembers [("position", .ofNat 0),
      ("componentId", .string "a"), ("data", .object [])]) := by
  decide

example : RenderProgram.decode
    (.array [.array [.array [.string "let", .string "name", .bool true]]]) =
      some ⟨[.bind "name" (.bool true)]⟩ := by
  rfl

end SlideDeck
