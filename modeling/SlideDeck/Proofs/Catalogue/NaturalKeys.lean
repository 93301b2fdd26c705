import SlideDeck.Library.Closings
import SlideDeck.Proofs.Catalogue.Requests

/-!
# Natural keys in a catalogue

Ids tell all stored components apart, natural keys those of one origin. A user component is
added only under a natural key that is not taken, but core components are put in the place
of others without regard to the natural keys of user components. So these are what a
reseed can take a second time, and nothing else can.
-/

namespace SlideDeck.Catalogue

/-- No two components share a natural key. -/
def DistinctKeys (k : Catalogue) : Prop := (k.components.map (·.naturalKey)).Nodup

instance (k : Catalogue) : Decidable k.DistinctKeys := inferInstanceAs (Decidable (List.Nodup _))

/-- The natural keys of the components of an origin. -/
def keysOf (k : Catalogue) (origin : Origin) : List (String × Category) :=
  (k.components.filter fun c => c.origin == origin).map (·.naturalKey)

/-- Ids are distinct, and natural keys are within an origin. -/
structure Regular (k : Catalogue) : Prop where
  distinct : DistinctIds k.components
  keys : ∀ origin, (k.keysOf origin).Nodup

variable {k : Catalogue}

theorem mem_keysOf {origin : Origin} {key : String × Category} :
    key ∈ k.keysOf origin ↔ ∃ c ∈ k.components, c.origin = origin ∧ c.naturalKey = key := by
  simp [keysOf, and_assoc]

theorem distinctKeys_iff : k.DistinctKeys ↔
    (k.keysOf .user).Nodup ∧ (k.keysOf .core).Nodup ∧
      (k.keysOf .user).Disjoint (k.keysOf .core) := by
  have hcore : (k.components.filter fun c => !(c.origin == .user)) =
      k.components.filter fun c => c.origin == .core :=
    List.filter_congr fun c _ => by cases c.origin <;> rfl
  have hperm := List.filter_append_perm (fun c => c.origin == .user) k.components
  rw [hcore] at hperm
  rw [DistinctKeys, ← (hperm.map _).nodup_iff, List.map_append, List.nodup_append']
  rfl

/-! ## The three changes -/

section Changes

variable {cs : List Component} {c : Component}

@[simp]
theorem id_keepCounter (k : Catalogue) (c : Component) : (k.keepCounter c).id = c.id := by
  unfold keepCounter
  split <;> rfl

@[simp]
theorem naturalKey_keepCounter (k : Catalogue) (c : Component) :
    (k.keepCounter c).naturalKey = c.naturalKey := by
  unfold keepCounter
  split <;> rfl

@[simp]
theorem origin_keepCounter (k : Catalogue) (c : Component) :
    (k.keepCounter c).origin = c.origin := by
  unfold keepCounter
  split <;> rfl

/-- A reseed leaves the user components as they are. -/
theorem filter_user_reseed (h : k.Seedable cs) :
    (k.reseed cs).components.filter (fun c => c.origin == .user) =
      k.components.filter fun c => c.origin == .user := by
  have hnone : ((cs.map k.keepCounter).filter fun c => c.origin == .user) = [] := by
    simp +contextual [h.core]
  rw [reseed, List.filter_append, hnone, List.append_nil, List.filter_filter]
  simp only [Bool.and_self]

/-- The core components behind a reseed are those that it is given. -/
theorem filter_core_reseed (h : k.Seedable cs) :
    (k.reseed cs).components.filter (fun c => c.origin == .core) = cs.map k.keepCounter := by
  have hnone : ((k.components.filter fun c => c.origin == .user).filter
      fun c => c.origin == .core) = [] := by
    simp +contextual
  have hall : ((cs.map k.keepCounter).filter fun c => c.origin == .core) =
      cs.map k.keepCounter := by
    simp +contextual [h.core]
  rw [reseed, List.filter_append, hnone, hall, List.nil_append]

theorem keysOf_user_reseed (h : k.Seedable cs) : (k.reseed cs).keysOf .user = k.keysOf .user := by
  rw [keysOf, filter_user_reseed h]
  rfl

theorem keysOf_core_reseed (h : k.Seedable cs) :
    (k.reseed cs).keysOf .core = cs.map (·.naturalKey) := by
  rw [keysOf, filter_core_reseed h, List.map_map]
  exact List.map_congr_left fun c _ => naturalKey_keepCounter k c

theorem keysOf_user_addUser (k : Catalogue) (c : Component) :
    (k.addUser c).keysOf .user = k.keysOf .user ++ [c.naturalKey] := by
  simp [keysOf, addUser, List.filter_append, Component.naturalKey]

theorem keysOf_core_addUser (k : Catalogue) (c : Component) :
    (k.addUser c).keysOf .core = k.keysOf .core := by
  simp [keysOf, addUser, List.filter_append]

theorem map_components_setCounter {α : Type} (f : Component → α)
    (hf : ∀ (c : Component) count, f { c with popularity := count } = f c) (k : Catalogue)
    (id : String) (count : Nat) :
    (k.setCounter id count).components.map f = k.components.map f := by
  rw [setCounter, List.map_map]
  apply List.map_congr_left
  intro c _
  dsimp only [Function.comp_apply]
  split
  next => exact hf c count
  next => rfl

theorem keysOf_setCounter (k : Catalogue) (id : String) (count : Nat) (origin : Origin) :
    (k.setCounter id count).keysOf origin = k.keysOf origin := by
  have hkeys : ∀ k : Catalogue, k.keysOf origin =
      ((k.components.map fun c => (c.origin, c.naturalKey)).filter
        fun entry => entry.1 == origin).map (·.2) := by
    intro k
    rw [keysOf, List.filter_map, List.map_map]
    rfl
  rw [hkeys, hkeys, map_components_setCounter _ fun _ _ => rfl]

/-! ## Regular catalogues -/

theorem Regular.reseed (h : k.Regular) (hseedable : k.Seedable cs) : (k.reseed cs).Regular where
  distinct := by
    have hids : (cs.map k.keepCounter).map (·.id) = cs.map (·.id) := by
      rw [List.map_map]
      exact List.map_congr_left fun c _ => id_keepCounter k c
    have husers : ((k.components.filter fun c => c.origin == .user).map (·.id)).Nodup :=
      h.distinct.filter _
    rw [DistinctIds, Catalogue.reseed, List.map_append, hids, List.nodup_append']
    refine ⟨husers, hseedable.distinct, ?_⟩
    -- the component that is found by an id is the user component of that id
    intro id huser hcore
    obtain ⟨u, hu, rfl⟩ := List.mem_map.mp huser
    obtain ⟨c, hc, hid⟩ := List.mem_map.mp hcore
    obtain ⟨humem, horigin⟩ := List.mem_filter.mp hu
    have hfind : k.find? c.id = some u :=
      h.distinct.find?_eq_some_iff.mpr ⟨humem, hid.symm⟩
    exact hseedable.notUser c hc u hfind (beq_iff_eq.mp horigin)
  keys
    | .user => by rw [keysOf_user_reseed hseedable]; exact h.keys .user
    | .core => by rw [keysOf_core_reseed hseedable]; exact hseedable.keys

theorem Regular.addUser (h : k.Regular) (hnew : k.IsNew c) : (k.addUser c).Regular where
  distinct := by
    rw [DistinctIds, Catalogue.addUser, List.map_append, List.nodup_append']
    refine ⟨h.distinct, List.nodup_singleton _, ?_⟩
    intro id hid hmem
    obtain ⟨old, hold, rfl⟩ := List.mem_map.mp hid
    exact hnew.id old hold (List.mem_singleton.mp hmem)
  keys
    | .user => by
        rw [keysOf_user_addUser, List.nodup_append']
        refine ⟨h.keys .user, List.nodup_singleton _, ?_⟩
        intro key hkey hmem
        obtain ⟨old, hold, _, rfl⟩ := mem_keysOf.mp hkey
        exact hnew.key old hold (List.mem_singleton.mp hmem)
    | .core => by rw [keysOf_core_addUser]; exact h.keys .core

theorem Regular.setCounter (h : k.Regular) (id : String) (count : Nat) :
    (k.setCounter id count).Regular where
  distinct := by
    rw [DistinctIds, map_components_setCounter _ fun _ _ => rfl]
    exact h.distinct
  keys origin := by rw [keysOf_setCounter]; exact h.keys origin

theorem Regular.after (h : k.Regular) (r : Request) : (k.after r).Regular :=
  after_induction r (fun _ _ hseedable => h.reseed hseedable)
    (fun _ _ hnew hk => hk.addUser hnew) h.setCounter h

theorem regular_run (requests : List Request) : (run requests).Regular := by
  refine run_induction ?_ (fun _ r hk => hk.after r) requests
  exact ⟨List.nodup_nil, fun _ => List.nodup_nil⟩

/-! ## Where natural keys stay distinct -/

theorem distinctKeys_reseed_iff (h : k.Regular) (hseedable : k.Seedable cs) :
    (k.reseed cs).DistinctKeys ↔
      ∀ u ∈ k.components, u.origin = .user → ∀ c ∈ cs, u.naturalKey ≠ c.naturalKey := by
  rw [distinctKeys_iff, keysOf_user_reseed hseedable, keysOf_core_reseed hseedable,
    and_iff_right (h.keys .user), and_iff_right hseedable.keys]
  constructor
  · intro hdisjoint u hu huser c hc hkey
    exact hdisjoint (mem_keysOf.mpr ⟨u, hu, huser, rfl⟩) (hkey ▸ List.mem_map_of_mem hc)
  · intro hkeys key huser hcore
    obtain ⟨u, hu, horigin, rfl⟩ := mem_keysOf.mp huser
    obtain ⟨c, hc, hkey⟩ := List.mem_map.mp hcore
    exact hkeys u hu horigin c hc hkey.symm

theorem distinctKeys_addUser_iff (hnew : k.IsNew c) :
    (k.addUser c).DistinctKeys ↔ k.DistinctKeys := by
  rw [DistinctKeys, Catalogue.addUser, List.map_append, List.nodup_append']
  refine and_iff_left ⟨List.nodup_singleton _, ?_⟩
  intro key hkey hmem
  obtain ⟨old, hold, rfl⟩ := List.mem_map.mp hkey
  exact hnew.key old hold (List.mem_singleton.mp hmem)

theorem distinctKeys_setCounter_iff (k : Catalogue) (id : String) (count : Nat) :
    (k.setCounter id count).DistinctKeys ↔ k.DistinctKeys := by
  rw [DistinctKeys, map_components_setCounter _ fun _ _ => rfl]
  rfl

end Changes

/-- Only a reseed that is granted can take a natural key twice, or put an end to that. -/
theorem distinctKeys_after_iff_of_not_seedable {r : Request}
    (hrefused : ∀ cs, r.seed? = some cs → ¬ k.Seedable cs) :
    (k.after r).DistinctKeys ↔ k.DistinctKeys :=
  after_induction (P := fun next => next.DistinctKeys ↔ k.DistinctKeys) r
    (fun cs hseed hseedable => absurd hseedable (hrefused cs hseed))
    (fun _ _ hnew hk => (distinctKeys_addUser_iff hnew).trans hk)
    (distinctKeys_setCounter_iff k) Iff.rfl

theorem after_of_seedable {r : Request} {cs : List Component} (hseed : r.seed? = some cs)
    (hseedable : k.Seedable cs) : k.after r = k.reseed cs := by
  have hreplace : (k.replaceCore cs).toOption.elim k (·.2) = k.reseed cs := by
    rw [replaceCore, seedRefusal?_eq_none_iff.mpr hseedable]
    rfl
  cases r with
  | seed => cases hseed; exact hreplace
  | replaceCore others => cases hseed; exact hreplace
  | insertUser _ | load _ | increment _ => cases hseed

/-- Whatever has been asked of a catalogue, ids are distinct and natural keys are within an
origin. A reseed leaves all natural keys distinct just when it keeps clear of those of user
components; after any other request, and when a reseed is refused, they are distinct just
when they were before. -/
theorem naturalKeys_run (requests : List Request) :
    DistinctIds (run requests).components ∧ (∀ origin, ((run requests).keysOf origin).Nodup) ∧
    (∀ r cs, r.seed? = some cs → (run requests).Seedable cs →
      ((run (requests ++ [r])).DistinctKeys ↔ ∀ u ∈ (run requests).components,
        u.origin = .user → ∀ c ∈ cs, u.naturalKey ≠ c.naturalKey)) ∧
    ∀ r, (∀ cs, r.seed? = some cs → ¬ (run requests).Seedable cs) →
      ((run (requests ++ [r])).DistinctKeys ↔ (run requests).DistinctKeys) := by
  have hregular := regular_run requests
  have hlast : ∀ r, run (requests ++ [r]) = (run requests).after r := fun r => List.foldl_concat ..
  refine ⟨hregular.distinct, hregular.keys, ?_, ?_⟩
  · intro r cs hseed hseedable
    rw [hlast, after_of_seedable hseed hseedable]
    exact distinctKeys_reseed_iff hregular hseedable
  · intro r hrefused
    rw [hlast]
    exact distinctKeys_after_iff_of_not_seedable hrefused

/-- A user component of the name and the category of a closing slide of the library. -/
def ownClosing : Component := { Library.thankYou with id := "user.thank-you", origin := .user }

/-- The closing slide of the library comes to stand beside a user component of its natural
key, which could not have been added behind it. -/
theorem not_distinctKeys_run_ownClosing :
    ¬ (run [.insertUser ownClosing, .replaceCore [Library.thankYou]]).DistinctKeys ∧
      run [.replaceCore [Library.thankYou], .insertUser ownClosing] =
        run [.replaceCore [Library.thankYou]] := by
  constructor
  · decide +kernel
  · rfl

end SlideDeck.Catalogue
