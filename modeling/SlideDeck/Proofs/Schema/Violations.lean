import SlideDeck.Schema.Validation

/-!
# Which violations reject a payload

Under the strict policy every violation rejects the payload, so acceptance means that
there is none. Under the lenient policy departures from the shape are warnings, and
only a payload that is no record, or a member that is missing, can reject.
-/

namespace SlideDeck.Schema

/-- A violation says that a member departs from its shape, before a policy weighs it. -/
structure Violation.IsDeparture (v : Violation) (field : String) : Prop where
  kind : v.kind = .shape
  severity : v.severity = .warning
  field : v.field = some field

theorem shapeViolation_isDeparture (field path message : String)
    (expected actual : Option String) :
    (shapeViolation field path message expected actual).IsDeparture field := ⟨rfl, rfl, rfl⟩

theorem countViolations_isDeparture {field path : String} {minItems maxItems : Option Nat}
    {count : Nat} {v : Violation}
    (hv : v ∈ countViolations field path minItems maxItems count) : v.IsDeparture field := by
  rcases List.mem_append.mp hv with hv | hv
  all_goals
    split at hv
    next =>
      split at hv
      next =>
        rw [List.mem_singleton.mp hv]
        exact shapeViolation_isDeparture ..
      next => cases hv
    next => cases hv

mutual

/-- Whatever is found inside a member belongs to that member and is a departure. -/
theorem shapeViolations_isDeparture {field path : String} (s : Schema) (value : Json)
    {v : Violation} (hv : v ∈ shapeViolations field path s value) : v.IsDeparture field := by
  obtain ⟨type, required, properties, items, minItems, maxItems⟩ := s
  simp only [shapeViolations] at hv
  split at hv
  next =>
    rw [List.mem_singleton.mp hv]
    exact shapeViolation_isDeparture ..
  next =>
    cases value with
    | array values =>
        rcases List.mem_append.mp hv with hv | hv
        · exact countViolations_isDeparture hv
        · exact itemViolations_isDeparture items values hv
    | object members =>
        rcases List.mem_append.mp hv with hv | hv
        · obtain ⟨name, _, rfl⟩ := List.mem_map.mp hv
          exact shapeViolation_isDeparture ..
        · exact memberViolations_isDeparture properties members hv
    | null | bool _ | number _ | string _ => cases hv

theorem itemViolations_isDeparture {field path : String} (items : Option Schema)
    (values : List Json) {v : Violation} (hv : v ∈ itemViolations field path items values) :
    v.IsDeparture field := by
  cases items with
  | none =>
      simp only [itemViolations] at hv
      cases hv
  | some s =>
      simp only [itemViolations] at hv
      obtain ⟨⟨value, i⟩, _, hv⟩ := List.mem_flatMap.mp hv
      exact shapeViolations_isDeparture s value hv

theorem memberViolations_isDeparture {field path : String} (properties : List (String × Schema))
    (members : List (String × Json)) {v : Violation}
    (hv : v ∈ memberViolations field path properties members) : v.IsDeparture field := by
  cases properties with
  | nil =>
      simp only [memberViolations] at hv
      cases hv
  | cons property rest =>
      obtain ⟨name, s⟩ := property
      simp only [memberViolations] at hv
      rcases List.mem_append.mp hv with hv | hv
      · split at hv
        next value _ => exact shapeViolations_isDeparture s value hv
        next => cases hv
      · exact memberViolations_isDeparture rest members hv

end

theorem propertyViolations_isDeparture {s : Schema} {payload : Json} {v : Violation}
    (hv : v ∈ s.propertyViolations payload) : ∃ field, v.IsDeparture field := by
  cases payload with
  | object members =>
      obtain ⟨⟨name, shape⟩, _, hv⟩ := List.mem_flatMap.mp hv
      dsimp only at hv
      split at hv
      next value _ => exact ⟨name, shapeViolations_isDeparture shape value hv⟩
      next => cases hv
  | null | bool _ | number _ | string _ | array _ => cases hv

/-! ## The lenient policy -/

/-- The lenient policy leaves every violation as it is. -/
theorem weigh_lenient : Policy.lenient.weigh = id := by
  funext v
  rfl

/-- The errors that the lenient policy leaves: the payload is no record, or members are
missing. -/
theorem errors_lenient (s : Schema) (payload : Json) :
    (s.violations .lenient payload).filter (fun v => v.severity == .error) =
      recordViolations payload ++ s.requiredViolations payload := by
  have hrecord : ∀ v ∈ recordViolations payload, (v.severity == .error) = true := by
    intro v hv
    cases payload with
    | object _ => cases hv
    | null | bool _ | number _ | string _ | array _ =>
        rw [List.mem_singleton.mp hv]
        rfl
  have hrequired : ∀ v ∈ s.requiredViolations payload, (v.severity == .error) = true := by
    intro v hv
    cases payload with
    | object members =>
        obtain ⟨name, _, rfl⟩ := List.mem_map.mp hv
        rfl
    | null | bool _ | number _ | string _ | array _ => cases hv
  -- what departs from its shape is a warning, and the lenient policy leaves it one
  have hproperty : ∀ v ∈ s.propertyViolations payload, ¬ (v.severity == .error) = true := by
    intro v hv
    obtain ⟨field, hdeparture⟩ := propertyViolations_isDeparture hv
    rw [hdeparture.severity]
    decide
  simp only [violations, weigh_lenient, List.map_id, List.filter_append,
    List.filter_eq_self.mpr hrecord, List.filter_eq_self.mpr hrequired,
    List.filter_eq_nil_iff.mpr hproperty, List.append_nil]

/-- A lenient report rejects, and tells why, by what is missing only. -/
theorem validate_lenient_congr {s : Schema} {payload other : Json}
    (hrecord : recordViolations payload = recordViolations other)
    (hrequired : s.requiredViolations payload = s.requiredViolations other) :
    (s.validate .lenient payload).valid = (s.validate .lenient other).valid ∧
      (s.validate .lenient payload).summary = (s.validate .lenient other).summary := by
  have herrors : (s.violations .lenient payload).filter (fun v => v.severity == .error) =
      (s.violations .lenient other).filter (fun v => v.severity == .error) := by
    rw [errors_lenient, errors_lenient, hrecord, hrequired]
  have hrejects : ∀ vs : List Violation,
      rejects vs = !(vs.filter fun v => v.severity == .error).isEmpty := by
    intro vs
    rw [Bool.eq_iff_iff]
    simp [rejects]
  constructor
  · simp only [validate, hrejects, herrors]
  · simp only [validate, Report.summary, herrors]

/-! ## The strict policy -/

/-- Under the strict policy every violation is an error. -/
theorem severity_of_mem_violations_strict {s : Schema} {payload : Json} {v : Violation}
    (hv : v ∈ s.violations .strict payload) : v.severity = .error := by
  obtain ⟨raw, hraw, rfl⟩ := List.mem_map.mp hv
  rcases List.mem_append.mp hraw with hraw | hraw
  · rcases List.mem_append.mp hraw with hraw | hraw
    · cases payload with
      | object _ => cases hraw
      | null | bool _ | number _ | string _ | array _ =>
          rw [List.mem_singleton.mp hraw]
          rfl
    · cases payload with
      | object members =>
          obtain ⟨name, _, rfl⟩ := List.mem_map.mp hraw
          rfl
      | null | bool _ | number _ | string _ | array _ => cases hraw
  · obtain ⟨field, hdeparture⟩ := propertyViolations_isDeparture hraw
    simp [Policy.weigh, hdeparture.kind]

/-- A payload is accepted when it has no violation at all. -/
theorem accepts_iff_violations_eq_nil {s : Schema} {payload : Json} :
    s.accepts payload = true ↔ s.violations .strict payload = [] := by
  have hall : ∀ v ∈ s.violations .strict payload, (v.severity == .error) = true := by
    intro v hv
    rw [severity_of_mem_violations_strict hv]
    rfl
  simp only [accepts, validate, rejects, Bool.not_eq_true', List.any_eq_false]
  rw [List.eq_nil_iff_forall_not_mem]
  constructor
  · intro h v hv
    exact h v hv (hall v hv)
  · intro h v hv
    exact (h v hv).elim

/-- A text departs from a shape, or not, whatever it says. -/
theorem shapeViolations_string (field path : String) (s : Schema) (text other : String) :
    shapeViolations field path s (.string text) =
      shapeViolations field path s (.string other) := by
  obtain ⟨type, required, properties, items, minItems, maxItems⟩ := s
  have hadmits : (fun t : SchemaType => !t.admits (.string text)) =
      fun t => !t.admits (.string other) := by
    funext t
    cases t <;> rfl
  simp only [shapeViolations, hadmits, Json.kind]

/-- Two records that have the same members, all of them texts. -/
def SameTexts (members others : List (String × Json)) : Prop :=
  ∀ name, members.lookup name = none ∧ others.lookup name = none ∨
    ∃ text other, members.lookup name = some (.string text) ∧
      others.lookup name = some (.string other)

/-- Records of texts under the same names are accepted together. -/
theorem accepts_congr_of_sameTexts {s : Schema} {members others : List (String × Json)}
    (h : SameTexts members others) :
    s.accepts (.object members) = s.accepts (.object others) := by
  have hrequired : s.requiredViolations (.object members) =
      s.requiredViolations (.object others) := by
    simp only [requiredViolations]
    congr 1
    apply List.filter_congr
    intro name _
    rcases h name with ⟨hmember, hother⟩ | ⟨text, other, hmember, hother⟩
    · rw [hmember, hother]
    · rw [hmember, hother]
      rfl
  have hproperty : s.propertyViolations (.object members) =
      s.propertyViolations (.object others) := by
    simp only [propertyViolations]
    congr 1
    funext ⟨name, shape⟩
    rcases h name with ⟨hmember, hother⟩ | ⟨text, other, hmember, hother⟩
    · simp only [hmember, hother]
    · simp only [hmember, hother]
      exact shapeViolations_string _ _ shape text other
  simp only [accepts, validate, violations, recordViolations, hrequired, hproperty]

theorem accepts_texts_congr (s : Schema) (title content title' content' : String) :
    s.accepts (.object [("content", .string content), ("title", .string title)]) =
      s.accepts (.object [("content", .string content'), ("title", .string title')]) := by
  apply accepts_congr_of_sameTexts
  intro name
  by_cases hcontent : name = "content"
  · subst hcontent
    exact .inr ⟨content, content', rfl, rfl⟩
  · by_cases htitle : name = "title"
    · subst htitle
      exact .inr ⟨title, title', rfl, rfl⟩
    · have hcontent' : (name == "content") = false := beq_eq_false_iff_ne.mpr hcontent
      have htitle' : (name == "title") = false := beq_eq_false_iff_ne.mpr htitle
      simp only [List.lookup_cons, hcontent', htitle', List.lookup_nil]
      exact .inl ⟨trivial, trivial⟩

end SlideDeck.Schema
