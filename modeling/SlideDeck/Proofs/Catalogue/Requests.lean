import Mathlib.Data.List.Induction
import SlideDeck.Catalogue.Directory
import SlideDeck.Library.Core
import SlideDeck.Proofs.Assembly.Preference

/-!
# Catalogues that requests lead to

A catalogue starts out empty and changes by requests. A request that is refused leaves it
as it is. One that is granted puts core components in the place of others, adds user
components one after another, or sets a counter, so an invariant is kept by all requests
once it is kept by these three.
-/

namespace SlideDeck.Catalogue

/-! ## Requests -/

/-- What a catalogue can be asked to do that may change it. -/
inductive Request
  | seed
  | replaceCore (cs : List Component)
  | insertUser (c : Component)
  | load (d : Directory)
  | increment (id : String)

/-- The core components that a request is to put in the place of the stored ones. -/
def Request.seed? : Request → Option (List Component)
  | .seed => some Library.core
  | .replaceCore cs => some cs
  | .insertUser _ | .load _ | .increment _ => none

/-- The catalogue after a request, whether or not it is refused. -/
def after (k : Catalogue) : Request → Catalogue
  | .seed => (k.replaceCore Library.core).toOption.elim k (·.2)
  | .replaceCore cs => (k.replaceCore cs).toOption.elim k (·.2)
  | .insertUser c => (k.insertUser c).toOption.getD k
  | .load d => (k.load d).2
  | .increment id => (k.increment id).toOption.elim k (·.2)

/-- The catalogue that some requests lead to. -/
def run (requests : List Request) : Catalogue := requests.foldl after .empty

/-! ## What requests do -/

/-- Some core components in the place of the stored ones. -/
def reseed (k : Catalogue) (cs : List Component) : Catalogue :=
  ⟨(k.components.filter fun c => c.origin == .user) ++ cs.map k.keepCounter⟩

/-- One more user component. -/
def addUser (k : Catalogue) (c : Component) : Catalogue :=
  ⟨k.components ++ [{ c with origin := .user }]⟩

/-- The counter of an id at some number. -/
def setCounter (k : Catalogue) (id : String) (count : Nat) : Catalogue :=
  ⟨k.components.map fun c => if c.id == id then { c with popularity := count } else c⟩

/-- Core components that can take the place of the stored ones. -/
structure Seedable (k : Catalogue) (cs : List Component) : Prop where
  nonempty : cs ≠ []
  core : ∀ c ∈ cs, c.origin = .core
  distinct : DistinctIds cs
  keys : (cs.map (·.naturalKey)).Nodup
  notUser : ∀ c ∈ cs, ∀ old, k.find? c.id = some old → old.origin ≠ .user

/-- A component whose id and natural key are not taken. -/
structure IsNew (k : Catalogue) (c : Component) : Prop where
  id : ∀ old ∈ k.components, old.id ≠ c.id
  key : ∀ old ∈ k.components, old.naturalKey ≠ c.naturalKey

theorem repetition?_cons_eq_none_iff {seen rest : List Component} {c : Component} :
    repetition? seen (c :: rest) = none ↔
      (∀ s ∈ seen, s.id ≠ c.id ∧ s.naturalKey ≠ c.naturalKey) ∧
        repetition? (c :: seen) rest = none := by
  rw [repetition?]
  split
  next hid =>
    obtain ⟨s, hs, hid⟩ := List.any_eq_true.mp hid
    exact iff_of_false (Option.some_ne_none _) fun h => (h.1 s hs).1 (beq_iff_eq.mp hid)
  next hid =>
    split
    next hkey =>
      obtain ⟨s, hs, hkey⟩ := List.any_eq_true.mp hkey
      exact iff_of_false (Option.some_ne_none _) fun h => (h.1 s hs).2 (beq_iff_eq.mp hkey)
    next hkey =>
      simp only [List.any_eq_true, beq_iff_eq, not_exists, not_and] at hid hkey
      exact (and_iff_right fun s hs => ⟨hid s hs, hkey s hs⟩).symm

/-- Nothing is repeated when ids and natural keys are distinct, and none of them has been
seen before. -/
theorem repetition?_eq_none_iff {seen cs : List Component} :
    repetition? seen cs = none ↔ DistinctIds cs ∧ (cs.map (·.naturalKey)).Nodup ∧
      ∀ c ∈ cs, ∀ s ∈ seen, s.id ≠ c.id ∧ s.naturalKey ≠ c.naturalKey := by
  induction cs generalizing seen with
  | nil => simp [repetition?, DistinctIds]
  | cons c rest ih =>
      rw [repetition?_cons_eq_none_iff, ih]
      simp only [DistinctIds, List.map_cons, List.nodup_cons, List.mem_map, List.mem_cons]
      grind

/-- A set of core components is taken over just when nothing speaks against it. -/
theorem seedRefusal?_eq_none_iff {k : Catalogue} {cs : List Component} :
    k.seedRefusal? cs = none ↔ k.Seedable cs := by
  unfold seedRefusal?
  constructor
  · intro h
    split at h
    next => cases h
    next hnonempty =>
      split at h
      next => cases h
      next hcore =>
        split at h
        next => cases h
        next hrepetition =>
          obtain ⟨hdistinct, hkeys, _⟩ := repetition?_eq_none_iff.mp hrepetition
          rw [Option.map_eq_none_iff, List.find?_eq_none] at h
          refine ⟨by simpa using hnonempty, by simpa using hcore, hdistinct, hkeys, ?_⟩
          intro c hc old hold huser
          exact h c hc (by rw [hold, Option.any_some, huser]; rfl)
  · intro h
    have hcore : (cs.find? fun c => c.origin != .core) = none := by
      simpa using h.core
    have huser : (cs.find? fun c => (k.find? c.id).any fun old => old.origin == .user) =
        none := by
      rw [List.find?_eq_none]
      intro c hc hany
      cases hold : k.find? c.id with
      | none =>
          rw [hold] at hany
          cases hany
      | some old =>
          rw [hold, Option.any_some] at hany
          exact h.notUser c hc old hold (beq_iff_eq.mp hany)
    rw [if_neg (by simpa using h.nonempty), hcore]
    dsimp only
    rw [repetition?_eq_none_iff.mpr ⟨h.distinct, h.keys, by simp⟩]
    dsimp only
    rw [huser]
    rfl

theorem find?_eq_none_iff {k : Catalogue} {id : String} :
    k.find? id = none ↔ ∀ old ∈ k.components, old.id ≠ id := by
  simp [find?]

/-- A user component is added just when its id and its natural key are not taken. -/
theorem insertUser_eq_ok_iff {k next : Catalogue} {c : Component} :
    k.insertUser c = .ok next ↔ k.IsNew c ∧ next = k.addUser c := by
  unfold insertUser
  constructor
  · intro h
    split at h
    next => cases h
    next hid =>
      split at h
      next => cases h
      next hkey =>
        cases h
        rw [Option.not_isSome_iff_eq_none, find?_eq_none_iff] at hid
        exact ⟨⟨hid, by simpa using hkey⟩, rfl⟩
  · rintro ⟨hnew, rfl⟩
    rw [if_neg (by simpa using find?_eq_none_iff.mpr hnew.id), if_neg (by simpa using hnew.key)]
    rfl

/-! ## What requests lead to -/

section

variable {P : Catalogue → Prop} {k : Catalogue}

theorem insertUsers_induction (hadd : ∀ k c, k.IsNew c → P k → P (k.addUser c)) (hk : P k)
    (cs : List Component) : P (k.insertUsers cs).2 := by
  induction cs generalizing k with
  | nil => exact hk
  | cons c rest ih =>
      unfold insertUsers
      split
      next next hnext =>
        obtain ⟨hnew, rfl⟩ := insertUser_eq_ok_iff.mp hnext
        exact ih (hadd k c hnew hk)
      next => exact ih hk

theorem replaceCore_induction {cs : List Component}
    (hreseed : k.Seedable cs → P (k.reseed cs)) (hk : P k) :
    P ((k.replaceCore cs).toOption.elim k (·.2)) := by
  unfold replaceCore
  split
  next => exact hk
  next hrefusal => exact hreseed (seedRefusal?_eq_none_iff.mp hrefusal)

/-- A request keeps what is kept when core components are replaced, a user component is
added and a counter is set. -/
theorem after_induction (r : Request)
    (hreseed : ∀ cs, r.seed? = some cs → k.Seedable cs → P (k.reseed cs))
    (hadd : ∀ k c, k.IsNew c → P k → P (k.addUser c))
    (hcount : ∀ id count, P (k.setCounter id count)) (hk : P k) : P (k.after r) := by
  cases r with
  | seed => exact replaceCore_induction (hreseed _ rfl) hk
  | replaceCore cs => exact replaceCore_induction (hreseed cs rfl) hk
  | insertUser c =>
      change P ((k.insertUser c).toOption.getD k)
      cases hinsert : k.insertUser c with
      | error e => exact hk
      | ok next =>
          obtain ⟨hnew, rfl⟩ := insertUser_eq_ok_iff.mp hinsert
          exact hadd k c hnew hk
  | load d => exact insertUsers_induction hadd hk d.components
  | increment id =>
      change P ((k.increment id).toOption.elim k (·.2))
      unfold increment
      split
      next => exact hk
      next => exact hcount id _

end

theorem run_induction {P : Catalogue → Prop} (hempty : P .empty)
    (hafter : ∀ k r, P k → P (k.after r)) (requests : List Request) : P (run requests) := by
  induction requests using List.reverseRecOn with
  | nil => exact hempty
  | append_singleton requests r ih =>
      rw [run, List.foldl_concat]
      exact hafter _ r ih

end SlideDeck.Catalogue
