import SlideDeck.Assembly.Conforming
import SlideDeck.Proofs.Keys

/-!
# Preference among components

Candidates and components for text are tried in orders that only components of one id can
tie in. Over components of distinct ids the result of sorting, and what is found by an id,
depend on which components there are and not on the order of their list.
-/

namespace SlideDeck

/-! ## Distinct ids -/

/-- No two components share an id. -/
def DistinctIds (components : List Component) : Prop :=
  (components.map (·.id)).Nodup

instance (components : List Component) : Decidable (DistinctIds components) :=
  inferInstanceAs (Decidable (List.Nodup _))

namespace DistinctIds

variable {components others : List Component}

theorem eq_of_id_eq (h : DistinctIds components) {a b : Component} (ha : a ∈ components)
    (hb : b ∈ components) (hid : a.id = b.id) : a = b :=
  List.inj_on_of_nodup_map h ha hb hid

theorem filter (h : DistinctIds components) (keep : Component → Bool) :
    DistinctIds (components.filter keep) :=
  (List.filter_sublist.map _).nodup h

theorem of_perm (h : DistinctIds components) (hperm : components.Perm others) :
    DistinctIds others :=
  (hperm.map _).nodup_iff.mp h

theorem find?_eq_some_iff (h : DistinctIds components) {id : String} {c : Component} :
    components.find? (fun c => c.id == id) = some c ↔ c ∈ components ∧ c.id = id :=
  find?_key_eq_some_iff h

/-- A component is found by its id in any order of the list. -/
theorem find?_eq_of_perm (h : DistinctIds components) (hperm : components.Perm others)
    (id : String) :
    components.find? (fun c => c.id == id) = others.find? fun c => c.id == id := by
  ext c
  rw [h.find?_eq_some_iff, (h.of_perm hperm).find?_eq_some_iff, hperm.mem_iff]

end DistinctIds

/-! ## Candidates -/

namespace Candidate

/-- The order of preference among candidates, as a comparison. -/
def preference : Candidate → Candidate → Ordering :=
  compareLex (fun a b => compareOn bound b a) <|
    compareLex (fun a b => compareOn (·.affinity.toNat) b a) <|
      compareLex (fun a b => compareOn (·.component.popularity) b a) <|
        compareOn (·.component.id)

instance : Std.TransCmp preference := by
  unfold preference
  infer_instance

theorem isPreferred_eq : isPreferred = fun a b => (preference a b).isLE := rfl

/-- Candidates that tie show components of one id. -/
theorem id_eq_of_preference_eq {a b : Candidate} (h : preference a b = .eq) :
    a.component.id = b.component.id := by
  simp only [preference, compareLex_eq_eq] at h
  exact Std.LawfulEqOrd.eq_of_compare h.2.2.2

theorem component_of_of?_eq_some {m : Material} {tag : String} {c : Component}
    {candidate : Candidate} (h : of? m tag c = some candidate) : candidate.component = c := by
  obtain ⟨data, _, rfl⟩ := Option.map_eq_some_iff.mp h
  rfl

/-- The ranking of a pool of distinct ids does not depend on the order of the pool. -/
theorem ranked_eq_of_perm {pool pool' : List Component} (hdistinct : DistinctIds pool)
    (hperm : pool.Perm pool') (m : Material) (tag : String) :
    ranked pool m tag = ranked pool' m tag := by
  unfold ranked
  rw [isPreferred_eq]
  apply mergeSort_eq_of_perm (hperm.filterMap (of? m tag))
  intro a ha b hb htie
  obtain ⟨c, hc, hac⟩ := List.mem_filterMap.mp ha
  obtain ⟨d, hd, hbd⟩ := List.mem_filterMap.mp hb
  have hid : c.id = d.id := by
    rw [← component_of_of?_eq_some hac, ← component_of_of?_eq_some hbd]
    exact id_eq_of_preference_eq htie
  -- candidates of one component for the same material are the same candidate
  rw [hdistinct.eq_of_id_eq hc hd hid] at hac
  exact Option.some.inj (hac.symm.trans hbd)

end Candidate

/-! ## Components for text -/

namespace Anchors

/-- The order of preference among components for text, as a comparison. -/
def narrativePreference : Component → Component → Ordering :=
  compareLex (fun a b => compareOn (fun c => (c.hasTag "text").toNat) b a) <|
    compareLex (fun a b => compareOn (·.popularity) b a) <| compareOn (·.id)

instance : Std.TransCmp narrativePreference := by
  unfold narrativePreference
  infer_instance

theorem isBetterNarrative_eq :
    isBetterNarrative = fun a b => (narrativePreference a b).isLE := rfl

theorem id_eq_of_narrativePreference_eq {a b : Component}
    (h : narrativePreference a b = .eq) : a.id = b.id := by
  simp only [narrativePreference, compareLex_eq_eq] at h
  exact Std.LawfulEqOrd.eq_of_compare h.2.2

theorem narratives_eq_of_perm {usable usable' : List Component}
    (hdistinct : DistinctIds usable) (hperm : usable.Perm usable') :
    narratives usable = narratives usable' := by
  unfold narratives
  rw [isBetterNarrative_eq]
  apply mergeSort_eq_of_perm (hperm.filter _)
  intro a ha b hb htie
  exact (hdistinct.filter _).eq_of_id_eq ha hb (id_eq_of_narrativePreference_eq htie)

end Anchors

end SlideDeck
