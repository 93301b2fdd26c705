import SlideDeck.Proofs.Numeric.Binary64
import SlideDeck.Proofs.Schema.Mending

/-!
# Values that match a schema

What a schema says of a value can be said without the validation: the value is of the
declared kind, an array has as many items as it may have, a record has the members that it
must have, and all items and members match their own schemas in turn. The list of departures
is empty for just these values, however deeply they are nested.
-/

namespace SlideDeck

/-- A value is of a kind. An integer is a number without a fraction. -/
inductive Json.IsOf : Json → SchemaType → Prop
  | object (members : List (String × Json)) : IsOf (.object members) .object
  | array (items : List Json) : IsOf (.array items) .array
  | string (text : String) : IsOf (.string text) .string
  | number (n : Json.Number) : IsOf (.number n) .number
  | integer {n : Json.Number} (hwhole : ∃ k : ℕ, (Binary64.magnitude n.toFloat).value = k) :
      IsOf (.number n) .integer
  | boolean (value : Bool) : IsOf (.bool value) .boolean

theorem SchemaType.admits_iff {t : SchemaType} {value : Json} :
    t.admits value = true ↔ value.IsOf t := by
  constructor
  · intro h
    unfold admits at h
    split at h
    next => exact .object _
    next => exact .array _
    next => exact .string _
    next => exact .number _
    next => exact .integer (Magnitude.isWhole_iff.mp h)
    next => exact .boolean _
    next => cases h
  · intro h
    cases h with
    | integer hwhole => exact Magnitude.isWhole_iff.mpr hwhole
    | object _ | array _ | string _ | number _ | boolean _ => rfl

namespace Schema

/-- A value matches a schema, with all that is in it. What a schema says of items holds of
arrays only, and what it says of members holds of records only. -/
inductive Matches : Schema → Json → Prop
  | intro {s : Schema} {value : Json}
      (kind : ∀ t, s.type = some t → value.IsOf t)
      (enough : ∀ items least, value = .array items → s.minItems = some least →
        least ≤ items.length)
      (fewEnough : ∀ items most, value = .array items → s.maxItems = some most →
        items.length ≤ most)
      (items : ∀ items shape, value = .array items → s.items = some shape →
        ∀ item ∈ items, Matches shape item)
      (present : ∀ members, value = .object members →
        ∀ name ∈ s.required, members.lookup name ≠ none)
      (members : ∀ members, value = .object members →
        ∀ name shape, (name, shape) ∈ s.properties →
        ∀ member, members.lookup name = some member → Matches shape member) :
      Matches s value

/-- A record meets a schema as a payload: what is required is there, and what is declared and
there matches. The kind that the schema itself asks for is not looked at. -/
structure Meets (s : Schema) (members : List (String × Json)) : Prop where
  present : ∀ name ∈ s.required, members.lookup name ≠ none
  properties : ∀ name shape, (name, shape) ∈ s.properties →
    ∀ member, members.lookup name = some member → shape.Matches member

theorem countViolations_eq_nil_iff {field path : String} {minItems maxItems : Option Nat}
    {count : Nat} :
    countViolations field path minItems maxItems count = [] ↔
      (∀ least, minItems = some least → least ≤ count) ∧
        ∀ most, maxItems = some most → count ≤ most := by
  unfold countViolations
  rw [List.append_eq_nil_iff]
  cases minItems <;> cases maxItems <;> simp

theorem missing_eq_nil_iff {required : List String} {members : List (String × Json)} :
    (required.filter fun name => (members.lookup name).isNone) = [] ↔
      ∀ name ∈ required, members.lookup name ≠ none := by
  simp [List.filter_eq_nil_iff]

/-- What is said of all properties is said of the first and of all others. -/
theorem forall_property_cons {name : String} {s : Schema} {rest : List (String × Schema)}
    {r : String → Schema → Prop} :
    (∀ other shape, (other, shape) ∈ (name, s) :: rest → r other shape) ↔
      r name s ∧ ∀ other shape, (other, shape) ∈ rest → r other shape := by
  simpa only [Prod.forall] using List.forall_mem_cons (a := (name, s)) (l := rest)
    (p := fun property : String × Schema => r property.1 property.2)

mutual

/-- Nothing departs from the shape of a schema in a value that matches it, and in no other
value. -/
theorem shapeViolations_eq_nil_iff (field path : String) (s : Schema) (value : Json) :
    shapeViolations field path s value = [] ↔ s.Matches value := by
  obtain ⟨type, required, properties, items, minItems, maxItems⟩ := s
  unfold shapeViolations
  have hkind : (type.filter fun t => !t.admits value) = none ↔
      ∀ t, type = some t → value.IsOf t := by
    simp [Option.filter_eq_none_iff, SchemaType.admits_iff]
  split
  next t hother =>
    -- a value of another kind is not looked into, and matches in no way
    refine iff_of_false (List.cons_ne_nil _ _) ?_
    rintro ⟨hof, _⟩
    rw [hkind.mpr hof] at hother
    cases hother
  next hnone =>
    have hof := hkind.mp hnone
    cases value with
    | array values =>
        dsimp only
        rw [List.append_eq_nil_iff, countViolations_eq_nil_iff,
          itemViolations_eq_nil_iff field path items values]
        constructor
        · rintro ⟨⟨henough, hfew⟩, hitems⟩
          refine .intro hof ?_ ?_ ?_ nofun nofun
          · rintro _ least ⟨⟩ hleast
            exact henough least hleast
          · rintro _ most ⟨⟩ hmost
            exact hfew most hmost
          · rintro _ shape ⟨⟩ hshape
            exact hitems shape hshape
        · rintro ⟨_, henough, hfew, hitems, _, _⟩
          exact ⟨⟨fun least => henough values least rfl, fun most => hfew values most rfl⟩,
            fun shape => hitems values shape rfl⟩
    | object members =>
        dsimp only
        rw [List.append_eq_nil_iff, List.map_eq_nil_iff, missing_eq_nil_iff,
          memberViolations_eq_nil_iff field path properties members]
        constructor
        · rintro ⟨hpresent, hmembers⟩
          refine .intro hof nofun nofun nofun ?_ ?_
          · rintro _ ⟨⟩
            exact hpresent
          · rintro _ ⟨⟩
            exact hmembers
        · rintro ⟨_, _, _, _, hpresent, hmembers⟩
          exact ⟨hpresent members rfl, hmembers members rfl⟩
    | null | bool _ | number _ | string _ =>
        exact iff_of_true rfl (.intro hof nofun nofun nofun nofun nofun)

theorem itemViolations_eq_nil_iff (field path : String) (items : Option Schema)
    (values : List Json) :
    itemViolations field path items values = [] ↔
      ∀ shape, items = some shape → ∀ item ∈ values, shape.Matches item := by
  cases items with
  | none =>
      simp only [itemViolations]
      exact iff_of_true trivial nofun
  | some s =>
      simp only [itemViolations, List.flatMap_eq_nil_iff, Prod.forall,
        List.mk_mem_zipIdx_iff_getElem?]
      constructor
      · rintro h _ ⟨⟩ item hitem
        obtain ⟨i, hi⟩ := List.mem_iff_getElem?.mp hitem
        exact (shapeViolations_eq_nil_iff field _ s item).mp (h item i hi)
      · intro h item i hi
        exact (shapeViolations_eq_nil_iff field _ s item).mpr
          (h s rfl item (List.mem_of_getElem? hi))

theorem memberViolations_eq_nil_iff (field path : String) (properties : List (String × Schema))
    (members : List (String × Json)) :
    memberViolations field path properties members = [] ↔
      ∀ name shape, (name, shape) ∈ properties →
        ∀ member, members.lookup name = some member → shape.Matches member := by
  cases properties with
  | nil =>
      simp only [memberViolations]
      exact iff_of_true trivial nofun
  | cons property rest =>
      obtain ⟨name, s⟩ := property
      simp only [memberViolations]
      rw [List.append_eq_nil_iff, memberViolations_eq_nil_iff field path rest members]
      rw [forall_property_cons]
      refine and_congr_left fun _ => ?_
      split
      next value hlookup =>
        rw [shapeViolations_eq_nil_iff field _ s value, hlookup]
        simp
      next hlookup =>
        rw [hlookup]
        exact iff_of_true rfl nofun

end

variable {s : Schema} {members : List (String × Json)}

/-! ## Payloads -/

theorem propertyViolations_eq_nil_iff :
    s.propertyViolations (.object members) = [] ↔
      ∀ name shape, (name, shape) ∈ s.properties →
        ∀ member, members.lookup name = some member → shape.Matches member := by
  simp only [propertyViolations, List.flatMap_eq_nil_iff, Prod.forall]
  refine forall_congr' fun name => forall_congr' fun shape => imp_congr_right fun _ => ?_
  split
  next value hlookup =>
    rw [shapeViolations_eq_nil_iff, hlookup]
    simp
  next hlookup =>
    rw [hlookup]
    exact iff_of_true rfl nofun

theorem requiredViolations_eq_nil_iff :
    s.requiredViolations (.object members) = [] ↔
      ∀ name ∈ s.required, members.lookup name ≠ none := by
  simp only [requiredViolations, List.map_eq_nil_iff, missing_eq_nil_iff]

theorem recordViolations_eq_nil_iff {payload : Json} :
    recordViolations payload = [] ↔ ∃ members, payload = .object members := by
  cases payload with
  | object members => exact iff_of_true rfl ⟨members, rfl⟩
  | null | bool _ | number _ | string _ | array _ =>
      exact iff_of_false (List.cons_ne_nil _ _) nofun

/-- The strict validation accepts the records that meet the schema. -/
theorem accepts_iff_meets {payload : Json} :
    s.accepts payload = true ↔ ∃ members, payload = .object members ∧ s.Meets members := by
  rw [accepts_iff_violations_eq_nil]
  unfold violations
  rw [List.map_eq_nil_iff, List.append_eq_nil_iff, List.append_eq_nil_iff,
    recordViolations_eq_nil_iff]
  constructor
  · rintro ⟨⟨⟨members, rfl⟩, hrequired⟩, hproperty⟩
    exact ⟨members, rfl, requiredViolations_eq_nil_iff.mp hrequired,
      propertyViolations_eq_nil_iff.mp hproperty⟩
  · rintro ⟨members, rfl, hpresent, hproperties⟩
    exact ⟨⟨⟨members, rfl⟩, requiredViolations_eq_nil_iff.mpr hpresent⟩,
      propertyViolations_eq_nil_iff.mpr hproperties⟩

/-- The lenient validation accepts the records with the required members. -/
theorem valid_lenient_iff {payload : Json} :
    (s.validate .lenient payload).valid = true ↔
      ∃ members, payload = .object members ∧ ∀ name ∈ s.required, members.lookup name ≠ none := by
  have hvalid : (s.validate .lenient payload).valid = true ↔
      (s.violations .lenient payload).filter (fun v => v.severity == .error) = [] := by
    simp [validate, rejects, List.filter_eq_nil_iff]
  rw [hvalid, errors_lenient, List.append_eq_nil_iff, recordViolations_eq_nil_iff]
  constructor
  · rintro ⟨⟨members, rfl⟩, hrequired⟩
    exact ⟨members, rfl, requiredViolations_eq_nil_iff.mp hrequired⟩
  · rintro ⟨members, rfl, hpresent⟩
    exact ⟨⟨members, rfl⟩, requiredViolations_eq_nil_iff.mpr hpresent⟩

/-! ## Texts and lists of texts -/

/-- What a schema says of the kind of a value that is of one kind only. -/
theorem kind_iff {value : Json} {t : SchemaType} (hof : ∀ u, value.IsOf u ↔ u = t) :
    (∀ u, s.type = some u → value.IsOf u) ↔ s.type = none ∨ s.type = some t := by
  simp only [hof]
  cases s.type <;> simp

theorem matches_string_iff {text : String} :
    s.Matches (.string text) ↔ s.type = none ∨ s.type = some .string := by
  have hof : ∀ u, (Json.string text).IsOf u ↔ u = .string := fun u =>
    ⟨by rintro ⟨⟩; rfl, by rintro rfl; exact .string text⟩
  rw [← kind_iff hof]
  constructor
  · rintro ⟨hkind, _⟩
    exact hkind
  · intro hkind
    exact .intro hkind nofun nofun nofun nofun nofun

theorem matches_array_iff {values : List Json} :
    s.Matches (.array values) ↔
      (s.type = none ∨ s.type = some .array) ∧
      (∀ least, s.minItems = some least → least ≤ values.length) ∧
      (∀ most, s.maxItems = some most → values.length ≤ most) ∧
      ∀ item, s.items = some item → ∀ value ∈ values, item.Matches value := by
  have hof : ∀ u, (Json.array values).IsOf u ↔ u = .array := fun u =>
    ⟨by rintro ⟨⟩; rfl, by rintro rfl; exact .array values⟩
  rw [← kind_iff hof]
  constructor
  · rintro ⟨hkind, henough, hfew, hitems, _, _⟩
    exact ⟨hkind, fun least => henough values least rfl, fun most => hfew values most rfl,
      fun item => hitems values item rfl⟩
  · rintro ⟨hkind, henough, hfew, hitems⟩
    refine .intro hkind ?_ ?_ ?_ nofun nofun
    · rintro _ least ⟨⟩
      exact henough least
    · rintro _ most ⟨⟩
      exact hfew most
    · rintro _ item ⟨⟩
      exact hitems item

/-- Texts match a schema that lets them be a list, of as many items as they are, and each of
them a text. -/
theorem matches_ofStrings_iff {texts : List String} :
    s.Matches (.ofStrings texts) ↔
      (s.type = none ∨ s.type = some .array) ∧
      (∀ least, s.minItems = some least → least ≤ texts.length) ∧
      (∀ most, s.maxItems = some most → texts.length ≤ most) ∧
      ∀ item, s.items = some item → texts ≠ [] →
        item.type = none ∨ item.type = some .string := by
  have hany : ∀ p : Prop, (∀ text ∈ texts, p) ↔ (texts ≠ [] → p) := by
    intro p
    constructor
    · intro h hsome
      obtain ⟨text, htext⟩ := List.exists_mem_of_ne_nil texts hsome
      exact h text htext
    · exact fun h _ htext => h (List.ne_nil_of_mem htext)
  rw [Json.ofStrings, matches_array_iff, List.length_map]
  simp only [List.forall_mem_map, matches_string_iff, hany]

/-! ## What a policy changes -/

/-- A violation without regard to how much it weighs. -/
def Violation.unweighed (v : Violation) : Violation := { v with severity := .warning }

@[simp]
theorem Policy.unweighed_weigh (policy : Policy) (v : Violation) :
    (policy.weigh v).unweighed = v.unweighed := by
  unfold weigh
  split <;> rfl

/-- The names of the members that violations of a kind are about, under any policy. -/
theorem fields_violations (policy : Policy) (s : Schema) (payload : Json)
    (kind : ViolationKind) :
    ((s.violations policy payload).filter fun v => v.kind == kind).filterMap (·.field) =
      ((s.violations .lenient payload).filter fun v => v.kind == kind).filterMap (·.field) := by
  simp [violations, List.filter_map, List.filterMap_map, Function.comp_def]

theorem mem_shapeFields_iff (policy : Policy) (s : Schema) (payload : Json) (name : String) :
    name ∈ (s.validate policy payload).shapeFields ↔
      ∃ members shape member, payload = .object members ∧ (name, shape) ∈ s.properties ∧
        members.lookup name = some member ∧ ¬ shape.Matches member := by
  have hstrict : (s.validate policy payload).shapeFields =
      (s.validate .strict payload).shapeFields := by
    simp only [Report.shapeFields, validate, fields_violations]
  rw [hstrict]
  cases payload with
  | object members =>
      rw [mem_shapeFields]
      constructor
      · intro hfault
        cases hfault with
        | misshapen hproperty hlookup hdeparts =>
            rw [ne_eq, shapeViolations_eq_nil_iff] at hdeparts
            exact ⟨members, _, _, rfl, hproperty, hlookup, hdeparts⟩
      · rintro ⟨_, shape, member, hpayload, hproperty, hlookup, hunmatched⟩
        cases hpayload
        have hdeparts : shapeViolations name ("$." ++ name) shape member ≠ [] := by
          rwa [ne_eq, shapeViolations_eq_nil_iff]
        exact .misshapen hproperty hlookup hdeparts
  | null | bool _ | number _ | string _ | array _ =>
      constructor
      · intro hfield
        simp [Report.shapeFields, validate, violations, recordViolations, requiredViolations,
          propertyViolations, Policy.weigh, Text.mem_sortedSet] at hfield
      · rintro ⟨_, _, _, hpayload, _⟩
        cases hpayload

/-- The strict validation accepts just the records that meet the schema, and the lenient one
just those with the required members. The two report the same violations, but for their
weight, and the same members as missing. The members that they report for their shapes are
those that are declared and there and do not match. -/
theorem valid_iff_meets (s : Schema) (payload : Json) :
    ((s.validate .strict payload).valid = true ↔
      ∃ members, payload = .object members ∧ s.Meets members) ∧
    ((s.validate .lenient payload).valid = true ↔
      ∃ members, payload = .object members ∧ ∀ name ∈ s.required, members.lookup name ≠ none) ∧
    (s.validate .strict payload).missingFields = (s.validate .lenient payload).missingFields ∧
    (s.validate .strict payload).violations.map Violation.unweighed =
      (s.validate .lenient payload).violations.map Violation.unweighed ∧
    ∀ policy name, name ∈ (s.validate policy payload).shapeFields ↔
      ∃ members shape member, payload = .object members ∧ (name, shape) ∈ s.properties ∧
        members.lookup name = some member ∧ ¬ shape.Matches member := by
  refine ⟨accepts_iff_meets, valid_lenient_iff, ?_, ?_,
    fun policy name => mem_shapeFields_iff policy s payload name⟩
  · exact fields_violations .strict s payload .missingField
  · simp [validate, violations, Function.comp_def]

end Schema

end SlideDeck
