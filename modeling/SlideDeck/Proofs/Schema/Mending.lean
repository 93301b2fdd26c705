import SlideDeck.Proofs.Keys
import SlideDeck.Proofs.Schema.Violations
import SlideDeck.Proofs.Text.Order

/-!
# Payloads that can be mended

The strict validation finds two kinds of faults in a record: members that are missing and
members that depart from their shapes. A record in which only members that it need not have
depart from their shapes is accepted once these are dropped.
-/

namespace SlideDeck

namespace Schema

/-- A violation keeps its kind and its member, whatever a policy makes of it. -/
@[simp]
theorem Policy.kind_weigh (policy : Policy) (v : Violation) : (policy.weigh v).kind = v.kind := by
  unfold weigh
  split <;> rfl

@[simp]
theorem Policy.field_weigh (policy : Policy) (v : Violation) :
    (policy.weigh v).field = v.field := by
  unfold weigh
  split <;> rfl

/-- What the strict validation finds fault with in the members of a record. -/
inductive Fault (s : Schema) (members : List (String × Json)) : ViolationKind → String → Prop
  | missing {name : String} (hrequired : name ∈ s.required)
      (hlookup : members.lookup name = none) : Fault s members .missingField name
  | misshapen {name : String} {shape : Schema} {value : Json}
      (hproperty : (name, shape) ∈ s.properties) (hlookup : members.lookup name = some value)
      (hdeparts : shapeViolations name ("$." ++ name) shape value ≠ []) :
      Fault s members .shape name

variable {s : Schema} {members : List (String × Json)}

/-- Every violation of a record belongs to a member, and is a fault of it. -/
theorem fault_of_mem_violations {v : Violation}
    (hv : v ∈ s.violations .strict (.object members)) :
    ∃ name, v.field = some name ∧ Fault s members v.kind name := by
  obtain ⟨raw, hraw, rfl⟩ := List.mem_map.mp hv
  rw [Policy.kind_weigh, Policy.field_weigh]
  rcases List.mem_append.mp hraw with hraw | hraw
  · -- a record is a record, so a member is missing
    obtain ⟨name, hname, rfl⟩ := List.mem_map.mp hraw
    obtain ⟨hrequired, hnone⟩ := List.mem_filter.mp hname
    exact ⟨name, rfl, .missing hrequired (Option.isNone_iff_eq_none.mp hnone)⟩
  · obtain ⟨⟨name, shape⟩, hproperty, hraw⟩ := List.mem_flatMap.mp hraw
    dsimp only at hraw
    split at hraw
    next value hlookup =>
      obtain ⟨hkind, _, hfield⟩ := shapeViolations_isDeparture shape value hraw
      rw [hkind]
      exact ⟨name, hfield, .misshapen hproperty hlookup (List.ne_nil_of_mem hraw)⟩
    next => cases hraw

theorem Fault.exists_violation {kind : ViolationKind} {name : String}
    (h : Fault s members kind name) :
    ∃ v ∈ s.violations .strict (.object members), v.kind = kind ∧ v.field = some name := by
  cases h with
  | missing hrequired hlookup =>
      refine ⟨Policy.strict.weigh (missingField name), List.mem_map_of_mem ?_, rfl, rfl⟩
      apply List.mem_append_left
      apply List.mem_append_right
      exact List.mem_map_of_mem (List.mem_filter.mpr ⟨hrequired, by simp [hlookup]⟩)
  | @misshapen _ shape value hproperty hlookup hdeparts =>
      obtain ⟨v, hv⟩ := List.exists_mem_of_ne_nil _ hdeparts
      obtain ⟨hkind, _, hfield⟩ := shapeViolations_isDeparture shape value hv
      refine ⟨Policy.strict.weigh v, List.mem_map_of_mem ?_, by simpa, by simpa⟩
      apply List.mem_append_right
      refine List.mem_flatMap.mpr ⟨_, hproperty, ?_⟩
      simpa only [hlookup] using hv

/-- The faults of a record are what its violations are about. -/
theorem exists_violation_iff {kind : ViolationKind} {name : String} :
    (∃ v ∈ s.violations .strict (.object members), v.kind = kind ∧ v.field = some name) ↔
      Fault s members kind name := by
  constructor
  · rintro ⟨v, hv, rfl, hfield⟩
    obtain ⟨other, hother, hfault⟩ := fault_of_mem_violations hv
    rw [hfield] at hother
    cases hother
    exact hfault
  · exact Fault.exists_violation

/-- A record without faults is accepted. -/
theorem accepts_object_iff :
    s.accepts (.object members) = true ↔ ∀ kind name, ¬ Fault s members kind name := by
  rw [accepts_iff_violations_eq_nil, List.eq_nil_iff_forall_not_mem]
  constructor
  · intro h kind name hfault
    obtain ⟨v, hv, _⟩ := hfault.exists_violation
    exact h v hv
  · intro h v hv
    obtain ⟨name, _, hfault⟩ := fault_of_mem_violations hv
    exact h _ name hfault

theorem rejects_object_iff :
    s.accepts (.object members) = false ↔ ∃ kind name, Fault s members kind name := by
  rw [← Bool.not_eq_true, accepts_object_iff]
  simp only [Classical.not_forall, Classical.not_not]

theorem mem_shapeFields {name : String} :
    name ∈ (s.validate .strict (.object members)).shapeFields ↔
      Fault s members .shape name := by
  rw [← exists_violation_iff]
  simp [Report.shapeFields, Text.mem_sortedSet, validate, and_assoc]

theorem mem_missingFields {name : String} :
    name ∈ (s.validate .strict (.object members)).missingFields ↔
      Fault s members .missingField name := by
  rw [← exists_violation_iff]
  simp [validate, and_assoc]

/-! ## Mending -/

/-- A member departs from its shape. -/
def isMisshapen (s : Schema) (payload : Json) (name : String) : Bool :=
  (s.violations .strict payload).any fun v => v.kind == .shape && v.field == some name

/-- A payload is rejected, but only for the shapes of members that it need not have. -/
structure Mendable (s : Schema) (payload : Json) : Prop where
  rejected : s.accepts payload = false
  optional : ∀ v ∈ s.violations .strict payload, v.kind = .shape ∧
    ∃ name, v.field = some name ∧ s.isRequired name = false

/-- The members of a record without those that depart from their shapes. -/
def mend (s : Schema) (members : List (String × Json)) : List (String × Json) :=
  members.filter fun m => !s.isMisshapen (.object members) m.1

theorem isMisshapen_iff {name : String} :
    s.isMisshapen (.object members) name = true ↔ Fault s members .shape name := by
  rw [← exists_violation_iff]
  simp [isMisshapen]

theorem mendable_object_iff :
    s.Mendable (.object members) ↔
      (∃ name, Fault s members .shape name) ∧ ∀ kind name, Fault s members kind name →
        kind = .shape ∧ s.isRequired name = false := by
  constructor
  · rintro ⟨hrejected, hoptional⟩
    have hfaults : ∀ kind name, Fault s members kind name →
        kind = .shape ∧ s.isRequired name = false := by
      intro kind name hfault
      obtain ⟨v, hv, rfl, hfield⟩ := hfault.exists_violation
      obtain ⟨hkind, other, hother, hnot⟩ := hoptional v hv
      rw [hfield] at hother
      cases hother
      exact ⟨hkind, hnot⟩
    obtain ⟨kind, name, hfault⟩ := rejects_object_iff.mp hrejected
    obtain ⟨rfl, _⟩ := hfaults kind name hfault
    exact ⟨⟨name, hfault⟩, hfaults⟩
  · rintro ⟨⟨name, hfault⟩, hfaults⟩
    constructor
    · exact rejects_object_iff.mpr ⟨_, name, hfault⟩
    · intro v hv
      obtain ⟨name, hfield, hfault⟩ := fault_of_mem_violations hv
      obtain ⟨hkind, hnot⟩ := hfaults _ name hfault
      exact ⟨hkind, name, hfield, hnot⟩

/-- What a report says of a record that can be mended. -/
theorem mendable_iff_report :
    s.Mendable (.object members) ↔
      (s.validate .strict (.object members)).missingFields = [] ∧
      (s.validate .strict (.object members)).shapeFields ≠ [] ∧
      (s.validate .strict (.object members)).shapeFields.any s.isRequired = false := by
  rw [mendable_object_iff]
  constructor
  · rintro ⟨⟨name, hname⟩, hfaults⟩
    refine ⟨?_, List.ne_nil_of_mem (mem_shapeFields.mpr hname), ?_⟩
    · rw [List.eq_nil_iff_forall_not_mem]
      intro other hother
      exact nomatch (hfaults _ other (mem_missingFields.mp hother)).1
    · rw [List.any_eq_false]
      intro other hother
      rw [(hfaults _ other (mem_shapeFields.mp hother)).2]
      decide
  · rintro ⟨hmissing, hshape, hoptional⟩
    constructor
    · obtain ⟨name, hname⟩ := List.exists_mem_of_ne_nil _ hshape
      exact ⟨name, mem_shapeFields.mp hname⟩
    · intro kind name hfault
      cases hfault with
      | missing hrequired hlookup =>
          have hmem := mem_missingFields.mpr (.missing hrequired hlookup)
          rw [hmissing] at hmem
          cases hmem
      | misshapen hproperty hlookup hdeparts =>
          have hmem := mem_shapeFields.mpr (.misshapen hproperty hlookup hdeparts)
          exact ⟨rfl, Bool.eq_false_iff.mpr (List.any_eq_false.mp hoptional name hmem)⟩

theorem mend_eq_filter_shapeFields :
    s.mend members = members.filter fun m =>
      !(s.validate .strict (.object members)).shapeFields.contains m.1 := by
  apply List.filter_congr
  intro m _
  congr 1
  rw [Bool.eq_iff_iff, List.contains_iff_mem, mem_shapeFields, isMisshapen_iff]

theorem lookup_mend (name : String) :
    (s.mend members).lookup name =
      if s.isMisshapen (.object members) name then none else members.lookup name := by
  rw [mend, lookup_filter_keys fun name => !s.isMisshapen (.object members) name]
  cases s.isMisshapen (.object members) name <;> rfl

/-- What can be mended is accepted once it is. -/
theorem Mendable.accepts_mend (h : s.Mendable (.object members)) :
    s.accepts (.object (s.mend members)) = true := by
  obtain ⟨_, hfaults⟩ := mendable_object_iff.mp h
  rw [accepts_object_iff]
  intro kind name hfault
  cases hfault with
  | missing hrequired hlookup =>
      -- a member that is required has not been dropped, so it was missing before
      have hkept : s.isMisshapen (.object members) name = false := by
        rw [Bool.eq_false_iff, ne_eq, isMisshapen_iff]
        intro hshape
        have hnot := (hfaults _ name hshape).2
        rw [isRequired, List.contains_iff_mem.mpr hrequired] at hnot
        cases hnot
      rw [lookup_mend, hkept] at hlookup
      exact nomatch (hfaults _ name (.missing hrequired hlookup)).1
  | misshapen hproperty hlookup hdeparts =>
      rw [lookup_mend] at hlookup
      split at hlookup
      next => cases hlookup
      next hkept => exact hkept (isMisshapen_iff.mpr (.misshapen hproperty hlookup hdeparts))

end Schema

end SlideDeck
