import SlideDeck.Assembly.Conforming
import SlideDeck.Proofs.Schema.Extending

/-!
# Payloads that a component adopts

A component shows a payload as it is if it accepts it, and mended if that is enough.
Nothing else becomes of a payload.
-/

namespace SlideDeck

/-- What a component shows of a proposed payload, if it shows it at all. -/
inductive Component.Adopts (c : Component) : Json → Json → Prop
  | asIs {data : Json} (haccepts : c.dataSchema.accepts data = true) : Adopts c data data
  | mended {members : List (String × Json)}
      (hmendable : c.dataSchema.Mendable (.object members)) :
      Adopts c (.object members) (.object (c.dataSchema.mend members))

namespace Component

variable {c : Component} {data : Json} {members : List (String × Json)}

theorem conform_of_accepts (h : c.dataSchema.accepts data = true) :
    c.conform data = .valid data := by
  unfold conform
  exact if_pos h

theorem conform_of_mendable (h : c.dataSchema.Mendable (.object members)) :
    c.conform (.object members) = .repaired (.object (c.dataSchema.mend members))
      (c.dataSchema.validate .strict (.object members)).shapeFields := by
  have hrejected : (c.dataSchema.validate .strict (.object members)).valid = false := h.rejected
  have haccepts : (c.dataSchema.validate .strict
      (.object (c.dataSchema.mend members))).valid = true := h.accepts_mend
  obtain ⟨hmissing, hshape, hoptional⟩ := Schema.mendable_iff_report.mp h
  rw [Schema.mend_eq_filter_shapeFields] at haccepts ⊢
  unfold conform
  dsimp only
  rw [if_neg (by simp [hrejected]), if_neg (by simp [hmissing, hshape, hoptional]),
    if_pos haccepts]

/-- What is rejected and cannot be mended is invalid, for what the validation has found. -/
theorem mendable_or_invalid (hrejected : c.dataSchema.accepts data = false) :
    (∃ members, data = .object members ∧ c.dataSchema.Mendable (.object members)) ∨
      c.conform data = .invalid (c.dataSchema.validate .strict data).summary := by
  have hvalid : (c.dataSchema.validate .strict data).valid = false := hrejected
  unfold conform
  dsimp only
  rw [if_neg (by simp [hvalid])]
  split
  next => exact .inr rfl
  next hreport =>
    cases data with
    | object members =>
        -- what the report lets pass can be mended
        simp only [Bool.or_eq_true, Bool.not_eq_true', not_or, Bool.not_eq_false,
          List.isEmpty_iff, Bool.not_eq_true] at hreport
        obtain ⟨⟨hmissing, hshape⟩, hoptional⟩ := hreport
        exact .inl ⟨members, rfl, Schema.mendable_iff_report.mpr ⟨hmissing, hshape, hoptional⟩⟩
    | null | bool _ | number _ | string _ | array _ => exact .inr rfl

/-- Conforming finds what a component adopts, and nothing else. -/
theorem conform_data?_iff {shown : Json} :
    (c.conform data).data? = some shown ↔ c.Adopts data shown := by
  constructor
  · intro h
    by_cases haccepts : c.dataSchema.accepts data = true
    · rw [conform_of_accepts haccepts] at h
      cases h
      exact .asIs haccepts
    · rcases mendable_or_invalid (Bool.eq_false_iff.mpr haccepts) with
        ⟨members, rfl, hmendable⟩ | hinvalid
      · rw [conform_of_mendable hmendable] at h
        cases h
        exact .mended hmendable
      · rw [hinvalid] at h
        cases h
  · intro h
    cases h with
    | asIs haccepts =>
        rw [conform_of_accepts haccepts]
        rfl
    | mended hmendable =>
        rw [conform_of_mendable hmendable]
        rfl

/-- What a component shows is accepted. -/
theorem Adopts.accepts {shown : Json} (h : c.Adopts data shown) :
    c.dataSchema.accepts shown = true := by
  cases h with
  | asIs haccepts => exact haccepts
  | mended hmendable => exact hmendable.accepts_mend

/-! ## One more member than an accepted payload has -/

variable {name : String} {value : Json}

theorem conform_cons_of_allows (haccepts : c.dataSchema.accepts (.object members) = true)
    (hnew : members.lookup name = none) (hallows : c.dataSchema.Allows name value) :
    c.conform (.object ((name, value) :: members)) =
      .valid (.object ((name, value) :: members)) :=
  conform_of_accepts ((Schema.accepts_cons_iff haccepts hnew).mpr hallows)

/-- The new member is dropped if it may not have its value, and no other is. -/
theorem conform_cons_of_not_allows (haccepts : c.dataSchema.accepts (.object members) = true)
    (hnew : members.lookup name = none) (hnot : ¬ c.dataSchema.Allows name value) :
    c.conform (.object ((name, value) :: members)) = .repaired (.object members) [name] := by
  rw [conform_of_mendable (Schema.mendable_cons haccepts hnew hnot),
    Schema.mend_cons haccepts hnew hnot, Schema.shapeFields_cons haccepts hnew hnot]

end Component

end SlideDeck
