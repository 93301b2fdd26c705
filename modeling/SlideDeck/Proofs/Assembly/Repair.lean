import SlideDeck.Library.Core
import SlideDeck.Proofs.Assembly.Adoption
import SlideDeck.Proofs.Schema.Matching

/-!
# Payloads that are repaired

A payload that is rejected is repaired unless it is no record or something is wrong with a
member that is required. Each member departs from its shape on its own account, so a repair
drops the members that do and leaves all others as they are. No smaller repair is accepted,
and what has been repaired conforms as it is.
-/

namespace SlideDeck

namespace Schema

variable {s : Schema} {members : List (String × Json)} {payload : Json} {name : String}

/-- A member is there and does not match what is declared for it. -/
def Misshapen (s : Schema) (members : List (String × Json)) (name : String) : Prop :=
  ∃ shape member, (name, shape) ∈ s.properties ∧ members.lookup name = some member ∧
    ¬ shape.Matches member

/-- No repair helps a payload: it is no record, or a required member is missing or
misshapen. -/
inductive BeyondRepair (s : Schema) : Json → Prop
  | notARecord {payload : Json} (hrecord : ∀ members, payload ≠ .object members) :
      BeyondRepair s payload
  | missing {members : List (String × Json)} {name : String} (hrequired : name ∈ s.required)
      (hlookup : members.lookup name = none) : BeyondRepair s (.object members)
  | misshapen {members : List (String × Json)} {name : String} (hrequired : name ∈ s.required)
      (hmisshapen : s.Misshapen members name) : BeyondRepair s (.object members)

theorem mem_shapeFields_object :
    name ∈ (s.validate .strict (.object members)).shapeFields ↔ s.Misshapen members name := by
  rw [mem_shapeFields_iff]
  constructor
  · rintro ⟨_, shape, member, ⟨⟩, hmisshapen⟩
    exact ⟨shape, member, hmisshapen⟩
  · rintro ⟨shape, member, hmisshapen⟩
    exact ⟨members, shape, member, rfl, hmisshapen⟩

theorem fault_shape_iff : Fault s members .shape name ↔ s.Misshapen members name :=
  mem_shapeFields.symm.trans mem_shapeFields_object

theorem fault_missing_iff :
    Fault s members .missingField name ↔ name ∈ s.required ∧ members.lookup name = none := by
  constructor
  · rintro ⟨hrequired, hlookup⟩
    exact ⟨hrequired, hlookup⟩
  · rintro ⟨hrequired, hlookup⟩
    exact .missing hrequired hlookup

theorem Misshapen.accepts_eq_false (h : s.Misshapen members name) :
    s.accepts (.object members) = false :=
  rejects_object_iff.mpr ⟨_, name, fault_shape_iff.mpr h⟩

/-- A misshapen member stays misshapen where other members are dropped. -/
theorem Misshapen.of_lookup {kept : List (String × Json)} (h : s.Misshapen members name)
    (hlookup : kept.lookup name = members.lookup name) : s.Misshapen kept name := by
  obtain ⟨shape, member, hproperty, hmember, hunmatched⟩ := h
  exact ⟨shape, member, hproperty, hlookup.trans hmember, hunmatched⟩

namespace BeyondRepair

theorem accepts_eq_false (h : s.BeyondRepair payload) : s.accepts payload = false := by
  cases h with
  | notARecord hrecord =>
      rw [Bool.eq_false_iff, ne_eq, accepts_iff_meets]
      rintro ⟨members, hpayload, _⟩
      exact hrecord members hpayload
  | missing hrequired hlookup =>
      exact rejects_object_iff.mpr ⟨_, _, fault_missing_iff.mpr ⟨hrequired, hlookup⟩⟩
  | misshapen _ hmisshapen => exact hmisshapen.accepts_eq_false

theorem not_mendable (h : s.BeyondRepair (.object members)) :
    ¬ s.Mendable (.object members) := by
  rw [mendable_object_iff]
  rintro ⟨_, hfaults⟩
  cases h with
  | notARecord hrecord => exact hrecord members rfl
  | missing hrequired hlookup =>
      exact nomatch (hfaults _ _ (fault_missing_iff.mpr ⟨hrequired, hlookup⟩)).1
  | misshapen hrequired hmisshapen =>
      have hoptional := (hfaults _ _ (fault_shape_iff.mpr hmisshapen)).2
      rw [isRequired, List.contains_iff_mem.mpr hrequired] at hoptional
      cases hoptional

end BeyondRepair

/-- What is rejected can be mended, or it is beyond repair. -/
theorem mendable_or_beyondRepair (hrejected : s.accepts payload = false) :
    (∃ members, payload = .object members ∧ s.Mendable (.object members)) ∨
      s.BeyondRepair payload := by
  cases payload with
  | null | bool _ | number _ | string _ | array _ => exact .inr (.notARecord nofun)
  | object members =>
      rw [Classical.or_iff_not_imp_right]
      intro hrepair
      have hfaults : ∀ kind name, Fault s members kind name →
          kind = .shape ∧ s.isRequired name = false := by
        intro kind name hfault
        cases hfault with
        | missing hrequired hlookup => exact absurd (.missing hrequired hlookup) hrepair
        | misshapen hproperty hlookup hdeparts =>
            have hmisshapen := fault_shape_iff.mp (.misshapen hproperty hlookup hdeparts)
            refine ⟨rfl, Bool.eq_false_iff.mpr fun hrequired => hrepair ?_⟩
            exact .misshapen (List.contains_iff_mem.mp hrequired) hmisshapen
      obtain ⟨kind, name, hfault⟩ := rejects_object_iff.mp hrejected
      obtain ⟨rfl, _⟩ := hfaults kind name hfault
      exact ⟨members, rfl, mendable_object_iff.mpr ⟨⟨name, hfault⟩, hfaults⟩⟩

end Schema

namespace Component

open Schema (BeyondRepair Misshapen)

variable {c : Component} {data shown : Json} {dropped : List String} {reason : String}

theorem conform_of_beyondRepair (h : c.dataSchema.BeyondRepair data) :
    c.conform data = .invalid (c.dataSchema.validate .strict data).summary := by
  rcases mendable_or_invalid h.accepts_eq_false with ⟨members, rfl, hmendable⟩ | hinvalid
  · exact absurd hmendable h.not_mendable
  · exact hinvalid

/-- The outcomes of conforming: a payload is valid if it is accepted, invalid if it is beyond
repair, and otherwise mended. -/
inductive Conforms (c : Component) : Json → Conformed → Prop
  | valid {data : Json} (haccepts : c.dataSchema.accepts data = true) :
      Conforms c data (.valid data)
  | repaired {members : List (String × Json)}
      (hmendable : c.dataSchema.Mendable (.object members)) :
      Conforms c (.object members) (.repaired (.object (c.dataSchema.mend members))
        (c.dataSchema.validate .strict (.object members)).shapeFields)
  | invalid {data : Json} (hrepair : c.dataSchema.BeyondRepair data) :
      Conforms c data (.invalid (c.dataSchema.validate .strict data).summary)

theorem conforms_conform (c : Component) (data : Json) : c.Conforms data (c.conform data) := by
  cases haccepts : c.dataSchema.accepts data with
  | true =>
      rw [conform_of_accepts haccepts]
      exact .valid haccepts
  | false =>
      rcases Schema.mendable_or_beyondRepair haccepts with ⟨members, rfl, hmendable⟩ | hrepair
      · rw [conform_of_mendable hmendable]
        exact .repaired hmendable
      · rw [conform_of_beyondRepair hrepair]
        exact .invalid hrepair

theorem conform_eq_valid_iff :
    c.conform data = .valid shown ↔ shown = data ∧ c.dataSchema.accepts data = true := by
  constructor
  · intro h
    have hconforms := c.conforms_conform data
    rw [h] at hconforms
    cases hconforms with
    | valid haccepts => exact ⟨rfl, haccepts⟩
  · rintro ⟨rfl, haccepts⟩
    exact conform_of_accepts haccepts

theorem conform_eq_invalid_iff :
    c.conform data = .invalid reason ↔ c.dataSchema.BeyondRepair data ∧
      reason = (c.dataSchema.validate .strict data).summary := by
  constructor
  · intro h
    have hconforms := c.conforms_conform data
    rw [h] at hconforms
    cases hconforms with
    | invalid hrepair => exact ⟨hrepair, rfl⟩
  · rintro ⟨hrepair, rfl⟩
    exact conform_of_beyondRepair hrepair

theorem conform_eq_repaired_iff :
    c.conform data = .repaired shown dropped ↔
      ∃ members, data = .object members ∧ c.dataSchema.Mendable (.object members) ∧
        shown = .object (c.dataSchema.mend members) ∧
        dropped = (c.dataSchema.validate .strict (.object members)).shapeFields := by
  constructor
  · intro h
    have hconforms := c.conforms_conform data
    rw [h] at hconforms
    cases hconforms with
    | repaired hmendable => exact ⟨_, rfl, hmendable, rfl, rfl⟩
  · rintro ⟨members, rfl, hmendable, rfl, rfl⟩
    exact conform_of_mendable hmendable

/-- A payload is repaired when it is rejected without being beyond repair. -/
theorem exists_repaired_iff :
    (∃ shown dropped, c.conform data = .repaired shown dropped) ↔
      c.dataSchema.accepts data = false ∧ ¬ c.dataSchema.BeyondRepair data := by
  have hconforms := c.conforms_conform data
  generalize c.conform data = conformed at hconforms
  cases hconforms with
  | valid haccepts => exact iff_of_false nofun fun h => by simp [haccepts] at h
  | repaired hmendable =>
      refine iff_of_true ⟨_, _, rfl⟩ ⟨hmendable.rejected, fun hrepair => ?_⟩
      exact hrepair.not_mendable hmendable
  | invalid hrepair => exact iff_of_false nofun fun h => h.2 hrepair

/-- What conforms is accepted, so it conforms as it is. -/
theorem conform_of_data? (h : (c.conform data).data? = some shown) :
    c.conform shown = .valid shown :=
  conform_of_accepts (conform_data?_iff.mp h).accepts

/-- A payload is invalid just when it is no record, or a required member is missing or
misshapen; it is valid, and left as it is, just when it is accepted; and otherwise it is
repaired. A repair drops the members that are misshapen, in which no smaller one would have
done, and leaves the others where they are. Its outcome is accepted, so what conforms once
conforms as it is. -/
theorem outcome_of_conform (c : Component) (data : Json) :
    (∀ reason, c.conform data = .invalid reason ↔ c.dataSchema.BeyondRepair data ∧
      reason = (c.dataSchema.validate .strict data).summary) ∧
    (∀ shown, c.conform data = .valid shown ↔
      shown = data ∧ (c.dataSchema.validate .strict data).valid = true) ∧
    ((∃ shown dropped, c.conform data = .repaired shown dropped) ↔
      (c.dataSchema.validate .strict data).valid = false ∧ ¬ c.dataSchema.BeyondRepair data) ∧
    (∀ shown dropped, c.conform data = .repaired shown dropped →
      ∃ members, data = .object members ∧
        shown = .object (members.filter fun m => m.1 ∉ dropped) ∧
        (∀ name, name ∈ dropped ↔ c.dataSchema.Misshapen members name) ∧
        (c.dataSchema.validate .strict shown).valid = true ∧
        ∀ kept name, kept.lookup name = members.lookup name →
          (c.dataSchema.validate .strict (.object kept)).valid = true → name ∉ dropped) ∧
    ∀ shown, (c.conform data).data? = some shown → c.conform shown = .valid shown := by
  refine ⟨fun _ => conform_eq_invalid_iff, fun _ => conform_eq_valid_iff, exists_repaired_iff,
    fun shown dropped h => ?_, fun _ => conform_of_data?⟩
  obtain ⟨members, rfl, hmendable, rfl, rfl⟩ := conform_eq_repaired_iff.mp h
  refine ⟨members, rfl, ?_, fun _ => Schema.mem_shapeFields_object, hmendable.accepts_mend, ?_⟩
  · rw [Schema.mend_eq_filter_shapeFields]
    simp only [List.contains_eq_mem, decide_not]
  · intro kept name hlookup haccepts hdropped
    have hmisshapen := (Schema.mem_shapeFields_object.mp hdropped).of_lookup hlookup
    have hrejected := hmisshapen.accepts_eq_false
    rw [Schema.accepts, haccepts] at hrejected
    cases hrejected

/-- A payload for a slide of text with bullets that are no list. -/
def strayBullets (title : Json) : Json :=
  .object [("bullets", .bool true), ("content", .string "Costs fell."), ("title", title)]

/-- The bullets are dropped, which is enough. With a title that is no text, too, the payload
is beyond repair. -/
theorem outcome_of_conform_strayBullets :
    ∃ shown, Library.fullTextNarrative.conform (strayBullets (.string "Costs")) =
        .repaired shown ["bullets"] ∧
      shown = .object [("content", .string "Costs fell."), ("title", .string "Costs")] ∧
      (Library.fullTextNarrative.dataSchema.validate .strict shown).valid = true ∧
      Library.fullTextNarrative.conform shown = .valid shown ∧
      ∃ reason, Library.fullTextNarrative.conform (strayBullets .null) = .invalid reason ∧
        Library.fullTextNarrative.dataSchema.BeyondRepair (strayBullets .null) := by
  obtain ⟨_, _, _, hrepair, hagain⟩ :=
    outcome_of_conform Library.fullTextNarrative (strayBullets (.string "Costs"))
  have hrepaired : Library.fullTextNarrative.conform (strayBullets (.string "Costs")) =
      .repaired (.object [("content", .string "Costs fell."), ("title", .string "Costs")])
        ["bullets"] := rfl
  obtain ⟨_, _, _, _, haccepts, _⟩ := hrepair _ _ hrepaired
  have hinvalid : Library.fullTextNarrative.conform (strayBullets .null) = .invalid _ := rfl
  obtain ⟨hrepair, _⟩ :=
    ((outcome_of_conform Library.fullTextNarrative (strayBullets .null)).1 _).mp hinvalid
  exact ⟨_, hrepaired, rfl, haccepts, hagain _ rfl, _, hinvalid, hrepair⟩

end Component

end SlideDeck
