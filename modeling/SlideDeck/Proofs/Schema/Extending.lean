import SlideDeck.Proofs.Schema.Matching

/-!
# Records with one more member

An accepted record gets no fault from one more member but in this member, and only for its
shape: a member that the record has done without is not required. So the longer record is
accepted if the new value matches what is declared for it, and mended to the old record if not.
-/

namespace SlideDeck.Schema

/-- A member may have a value, which matches whatever is declared for the member. -/
def Allows (s : Schema) (name : String) (value : Json) : Prop :=
  ∀ shape, (name, shape) ∈ s.properties → shape.Matches value

theorem not_allows_iff {s : Schema} {name : String} {value : Json} :
    ¬ s.Allows name value ↔ ∃ shape, (name, shape) ∈ s.properties ∧ ¬ shape.Matches value := by
  simp only [Allows, not_forall, exists_prop]

variable {s : Schema} {members : List (String × Json)} {name : String}
  (haccepts : s.accepts (.object members) = true) (hnew : members.lookup name = none)

include haccepts hnew

theorem isRequired_eq_false_of_lookup : s.isRequired name = false := by
  rw [Bool.eq_false_iff, isRequired, ne_eq, List.contains_iff_mem]
  intro hrequired
  exact accepts_object_iff.mp haccepts _ name (.missing hrequired hnew)

theorem fault_cons_iff {value : Json} {kind : ViolationKind} {other : String} :
    Fault s ((name, value) :: members) kind other ↔
      kind = .shape ∧ other = name ∧ ¬ s.Allows name value := by
  constructor
  · intro hfault
    by_cases hother : other = name
    · subst hother
      cases hfault with
      | missing _ hlookup => simp at hlookup
      | misshapen hproperty hlookup hdeparts =>
          rw [List.lookup_cons_self, Option.some.injEq] at hlookup
          subst hlookup
          refine ⟨rfl, rfl, fun hallows => hdeparts ?_⟩
          exact (shapeViolations_eq_nil_iff _ _ _ _).mpr (hallows _ hproperty)
    · -- the other members are as they were, where they had no fault
      have hsame : ((name, value) :: members).lookup other = members.lookup other := by
        rw [List.lookup_cons, beq_eq_false_iff_ne.mpr hother]
      refine absurd ?_ (accepts_object_iff.mp haccepts kind other)
      cases hfault with
      | missing hrequired hlookup => exact .missing hrequired (hsame ▸ hlookup)
      | misshapen hproperty hlookup hdeparts =>
          exact .misshapen hproperty (hsame ▸ hlookup) hdeparts
  · rintro ⟨rfl, rfl, hnot⟩
    obtain ⟨shape, hproperty, hunmatched⟩ := not_allows_iff.mp hnot
    exact .misshapen hproperty List.lookup_cons_self
      (mt (shapeViolations_eq_nil_iff _ _ _ _).mp hunmatched)

/-- A record with one more member is accepted if the member may have its value. -/
theorem accepts_cons_iff {value : Json} :
    s.accepts (.object ((name, value) :: members)) = true ↔ s.Allows name value := by
  simp only [accepts_object_iff, fault_cons_iff haccepts hnew]
  constructor
  · intro h
    by_contra hnot
    exact h .shape name ⟨rfl, rfl, hnot⟩
  · rintro hallows _ _ ⟨_, _, hnot⟩
    exact hnot hallows

variable {value : Json} (hnot : ¬ s.Allows name value)

include hnot

theorem mendable_cons : s.Mendable (.object ((name, value) :: members)) := by
  rw [mendable_object_iff]
  simp only [fault_cons_iff haccepts hnew]
  refine ⟨⟨name, trivial, rfl, hnot⟩, ?_⟩
  rintro _ _ ⟨rfl, rfl, _⟩
  exact ⟨rfl, isRequired_eq_false_of_lookup haccepts hnew⟩

/-- Mending takes the new member away again, and no other. -/
theorem mend_cons : s.mend ((name, value) :: members) = members := by
  have hmisshapen : ∀ other,
      s.isMisshapen (.object ((name, value) :: members)) other = true ↔ other = name := by
    intro other
    rw [isMisshapen_iff, fault_cons_iff haccepts hnew]
    simp [hnot]
  rw [mend, List.filter_cons_of_neg (by simp [hmisshapen]), List.filter_eq_self]
  intro member hmember
  have hother : member.1 ≠ name := by
    have hkey := List.lookup_eq_none_iff.mp hnew member hmember
    exact fun heq => by simp [heq] at hkey
  rw [Bool.not_eq_true', Bool.eq_false_iff, ne_eq, hmisshapen]
  exact hother

theorem shapeFields_cons :
    (s.validate .strict (.object ((name, value) :: members))).shapeFields = [name] := by
  apply Text.sortedSet_eq_singleton
  intro other
  rw [← Text.mem_sortedSet, ← Report.shapeFields, mem_shapeFields, fault_cons_iff haccepts hnew]
  simp [hnot]

end SlideDeck.Schema
