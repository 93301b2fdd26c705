import SlideDeck.Proofs.Json.Records
import SlideDeck.Schema.Basic

/-!
# Schemas that have been written

What a schema leaves open is not written, and what is not written is left open. A schema comes
back when its members are a map, whose names ascend, and its counts fit 64 bits, at every level;
whatever is decoded is of this kind.
-/

namespace SlideDeck

open Json (Draft Decoder recordOf nullable_recordOf_map optional_recordOf optional_recordOf_absent)

theorem SchemaType.name_ofName (t : SchemaType) :
    Decoder.name ofName? (Draft.ofJson (.string t.name)) = some t := by
  cases t <;> rfl

namespace Schema

/-- The schemas that a schema is made of. -/
def inner (s : Schema) : List Schema := s.properties.map Prod.snd ++ s.items.toList

/-- The names of all maps ascend and all counts fit 64 bits. -/
inductive WellFormed : Schema → Prop
  | intro {s : Schema} (names : Json.Ascending s.properties)
      (least : ∀ n ∈ s.minItems, n < UInt64.size) (most : ∀ n ∈ s.maxItems, n < UInt64.size)
      (inner : ∀ t ∈ s.inner, WellFormed t) : WellFormed s

theorem propertiesToJson_eq_map (properties : List (String × Schema)) :
    propertiesToJson properties = properties.map fun m => (m.1, m.2.toJson) := by
  induction properties with
  | nil => rfl
  | cons m rest ih => rw [propertiesToJson, ih, List.map_cons]

/-! ## The members of a schema -/

/-- The members that are written for a schema. -/
def members (s : Schema) : List (String × Json) :=
  Json.memberIf "type" s.type (fun t => .string t.name) ++
  (if s.required.isEmpty then [] else [("required", .ofStrings s.required)]) ++
  (if s.properties.isEmpty then []
    else [("properties", .object (propertiesToJson s.properties))]) ++
  Json.memberIf "items" s.items toJson ++
  Json.memberIf "minItems" s.minItems .ofNat ++
  Json.memberIf "maxItems" s.maxItems .ofNat

theorem toJson_eq (s : Schema) : s.toJson = Json.ofMembers s.members := by
  obtain ⟨type, required, properties, items, minItems, maxItems⟩ := s
  cases items <;> rfl

theorem names_nodup (s : Schema) : (s.members.map Prod.fst).Nodup := by
  have hlist : ∀ (p : Prop) [Decidable p] (m : String × Json),
      ((if p then [] else [m]).map Prod.fst).Sublist [m.1] := by
    intro p _ m
    split
    · exact List.nil_sublist _
    · exact List.Sublist.refl _
  have hsublist : (s.members.map Prod.fst).Sublist memberNames := by
    simp only [members, List.map_append]
    exact (((((Json.memberIf_names_sublist _ _ _).append (hlist _ _)).append (hlist _ _)).append
      (Json.memberIf_names_sublist _ _ _)).append (Json.memberIf_names_sublist _ _ _)).append
      (Json.memberIf_names_sublist _ _ _)
  exact hsublist.nodup (by decide)

section Lookup

variable (s : Schema)

theorem lookup_listIf (name : String) (p : Prop) [Decidable p] (m : String × Json) :
    (if p then [] else [m]).lookup name =
      if p then none else if name == m.1 then some m.2 else none := by
  split
  next => rfl
  next =>
    rw [List.lookup_cons]
    cases name == m.1 <;> rfl

theorem lookup_type : s.members.lookup "type" = s.type.map fun t => .string t.name := by
  simp [members, List.lookup_append, Json.lookup_memberIf, lookup_listIf]

theorem lookup_required :
    s.members.lookup "required" =
      if s.required.isEmpty then none else some (.ofStrings s.required) := by
  simp [members, List.lookup_append, Json.lookup_memberIf, lookup_listIf]

theorem lookup_properties :
    s.members.lookup "properties" =
      if s.properties.isEmpty then none else some (.object (propertiesToJson s.properties)) := by
  simp [members, List.lookup_append, Json.lookup_memberIf, lookup_listIf]

theorem lookup_items : s.members.lookup "items" = s.items.map toJson := by
  simp [members, List.lookup_append, Json.lookup_memberIf, lookup_listIf]

theorem lookup_minItems : s.members.lookup "minItems" = s.minItems.map .ofNat := by
  simp [members, List.lookup_append, Json.lookup_memberIf, lookup_listIf]

theorem lookup_maxItems : s.members.lookup "maxItems" = s.maxItems.map .ofNat := by
  simp [members, List.lookup_append, Json.lookup_memberIf, lookup_listIf]

end Lookup

/-! ## Decoding what has been written -/

theorem nesting_lt_of_mem_inner {s t : Schema} (h : t ∈ s.inner) :
    (Draft.ofJson t.toJson).nesting < (Draft.ofJson s.toJson).nesting := by
  rw [s.toJson_eq]
  rcases List.mem_append.mp h with h | h
  · obtain ⟨m, hm, rfl⟩ := List.mem_map.mp h
    have hnonempty : s.properties ≠ [] := List.ne_nil_of_mem hm
    have hmember : ("properties", .object (propertiesToJson s.properties)) ∈ s.members := by
      simp [members, hnonempty]
    refine lt_trans ?_ (Json.nesting_lt_ofMembers hmember)
    rw [propertiesToJson_eq_map]
    exact Json.nesting_lt_object
      (List.mem_map_of_mem (f := fun n : String × Schema => (n.1, n.2.toJson)) hm)
  · rw [Option.mem_toList] at h
    have hmember : ("items", t.toJson) ∈ s.members := by
      simp [members, Json.memberIf, h]
    exact Json.nesting_lt_ofMembers hmember

theorem toJson_ne_null (s : Schema) : s.toJson ≠ .null := by
  rw [s.toJson_eq]
  exact Json.noConfusion

/-- A schema that is well formed comes back wherever there is room for its nesting. -/
theorem WellFormed.decodeNested_toJson {s : Schema} (h : s.WellFormed) :
    ∀ {depth : Nat}, (Draft.ofJson s.toJson).nesting ≤ depth →
      decodeNested depth (Draft.ofJson s.toJson) = some s := by
  induction h with
  | @intro s names least most _ ih =>
      intro depth hdepth
      cases depth with
      | zero =>
          rw [s.toJson_eq] at hdepth
          exact absurd hdepth (Nat.not_succ_le_zero _)
      | succ depth =>
          have hinner : ∀ t ∈ s.inner, decodeNested depth (Draft.ofJson t.toJson) = some t := by
            intro t ht
            have hless := nesting_lt_of_mem_inner ht
            exact ih t ht (by omega)
          have hrequired :
              (recordOf s.members).optional "required" [] (Decoder.list Decoder.string) =
                some s.required := by
            have hlookup := s.lookup_required
            split at hlookup
            next hempty =>
              rw [optional_recordOf_absent hlookup, List.isEmpty_iff.mp hempty]
            next => exact optional_recordOf hlookup [] (Json.list_ofStrings s.required)
          have hproperties :
              (recordOf s.members).optional "properties" [] (Decoder.map (decodeNested depth)) =
                some s.properties := by
            have hlookup := s.lookup_properties
            split at hlookup
            next hempty =>
              rw [optional_recordOf_absent hlookup, List.isEmpty_iff.mp hempty]
            next =>
              rw [propertiesToJson_eq_map] at hlookup
              refine optional_recordOf hlookup [] (Json.map_map names fun m hm => hinner m.2 ?_)
              exact List.mem_append_left _ (List.mem_map_of_mem hm)
          have hitems : (recordOf s.members).nullable "items" (decodeNested depth) = some s.items :=
            nullable_recordOf_map s.lookup_items fun t ht =>
              ⟨hinner t (List.mem_append_right _ (Option.mem_toList.mpr ht)), t.toJson_ne_null⟩
          rw [s.toJson_eq, decodeNested]
          simp only [Json.record?_ofMembers s.names_nodup, Option.bind_eq_bind, Option.bind_some,
            nullable_recordOf_map s.lookup_type fun t _ => ⟨t.name_ofName, Json.noConfusion⟩,
            hrequired, hproperties, hitems,
            nullable_recordOf_map s.lookup_minItems fun n hn =>
              ⟨Json.nat_ofNat (least n hn), Json.noConfusion⟩,
            nullable_recordOf_map s.lookup_maxItems fun n hn =>
              ⟨Json.nat_ofNat (most n hn), Json.noConfusion⟩]
          cases s
          rfl

/-- A schema that is well formed comes back. -/
theorem decode_toJson {s : Schema} (h : s.WellFormed) : decode (Draft.ofJson s.toJson) = some s :=
  h.decodeNested_toJson le_rfl

/-! ## What has been decoded -/

/-- A schema that has been decoded is well formed. -/
theorem wellFormed_of_decodeNested {depth : Nat} {d : Draft} {s : Schema}
    (h : decodeNested depth d = some s) : s.WellFormed := by
  induction depth generalizing d s with
  | zero => cases h
  | succ depth ih =>
      simp only [decodeNested, Option.bind_eq_bind, Option.bind_eq_some_iff] at h
      obtain ⟨r, _, type, _, required, _, properties, hproperties, items, hitems, least, hleast,
        most, hmost, ⟨⟩⟩ := h
      have hmap : Json.Ascending properties ∧
          ∀ m ∈ properties, ∃ d, decodeNested depth d = some m.2 := by
        obtain rfl | ⟨_, hmapped⟩ := Json.exists_of_optional hproperties
        · exact ⟨.nil, List.forall_mem_nil _⟩
        · exact Json.ascending_of_map hmapped
      refine .intro hmap.1 (fun n hn => ?_) (fun n hn => ?_) fun t ht => ?_
      · obtain ⟨_, hdecode⟩ := Json.exists_of_nullable hleast n hn
        exact Json.lt_of_nat hdecode
      · obtain ⟨_, hdecode⟩ := Json.exists_of_nullable hmost n hn
        exact Json.lt_of_nat hdecode
      · rcases List.mem_append.mp ht with ht | ht
        · obtain ⟨m, hm, rfl⟩ := List.mem_map.mp ht
          obtain ⟨_, hdecode⟩ := hmap.2 m hm
          exact ih hdecode
        · obtain ⟨_, hdecode⟩ := Json.exists_of_nullable hitems t (Option.mem_toList.mp ht)
          exact ih hdecode

theorem wellFormed_of_decode {d : Draft} {s : Schema} (h : decode d = some s) : s.WellFormed :=
  wellFormed_of_decodeNested h

end Schema

end SlideDeck
