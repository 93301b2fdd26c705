import Mathlib.Algebra.BigOperators.Group.Finset.Piecewise
import SlideDeck.Proofs.Catalogue.Reseeding

/-!
# Counters

The uses of a component are counted under its id, and a counter goes on for as long as
something is stored under the id, whatever a reseed puts there. So no use is lost, in
whatever order the steps of all clients are taken.
-/

namespace SlideDeck.Catalogue

/-! ## Counting -/

/-- A counter after some more uses. It has 64 bits. -/
def counted (count uses : Nat) : Nat :=
  if uses = 0 then count else (count + uses) % UInt64.size

@[simp]
theorem counted_zero (count : Nat) : counted count 0 = count := rfl

theorem counted_of_lt {count uses : Nat} (h : count + uses < UInt64.size) :
    counted count uses = count + uses := by
  unfold counted
  split
  next hzero => rw [hzero, Nat.add_zero]
  next => exact Nat.mod_eq_of_lt h

theorem counted_counted (count first second : Nat) :
    counted (counted count first) second = counted count (first + second) := by
  by_cases hfirst : first = 0
  · rw [hfirst, counted_zero, Nat.zero_add]
  by_cases hsecond : second = 0
  · rw [hsecond, counted_zero, Nat.add_zero]
  have hsum : first + second ≠ 0 := fun hzero => hfirst (Nat.eq_zero_of_add_eq_zero_right hzero)
  rw [counted, counted, counted, if_neg hfirst, if_neg hsecond, if_neg hsum,
    Nat.mod_add_mod, Nat.add_assoc]

variable {k : Catalogue} {c : Component} {id : String}

/-- A catalogue after its components have been used as often as is told by their ids. -/
def used (k : Catalogue) (uses : String → Nat) : Catalogue :=
  ⟨k.components.map fun c => { c with popularity := counted c.popularity (uses c.id) }⟩

theorem used_eq_self {uses : String → Nat} (h : ∀ c ∈ k.components, uses c.id = 0) :
    k.used uses = k := by
  have hcomponents : (k.used uses).components = k.components := by
    refine (List.map_congr_left fun c hc => ?_).trans (List.map_id _)
    rw [h c hc, counted_zero]
    rfl
  cases k
  exact congrArg Catalogue.mk hcomponents

theorem used_used (k : Catalogue) (first second : String → Nat) :
    (k.used first).used second = k.used fun id => first id + second id := by
  simp only [used, List.map_map, Function.comp_def, counted_counted]

theorem used_count_append (k : Catalogue) (first second : List String) :
    (k.used fun id => first.count id).used (fun id => second.count id) =
      k.used fun id => (first ++ second).count id := by
  simp only [used_used, List.count_append]

theorem map_id_used (k : Catalogue) (uses : String → Nat) :
    (k.used uses).components.map (·.id) = k.components.map (·.id) := by
  rw [used, List.map_map]
  rfl

theorem distinctIds_used (hids : DistinctIds k.components) (uses : String → Nat) :
    DistinctIds (k.used uses).components := by
  rwa [DistinctIds, map_id_used]

/-- Something is stored under an id. -/
def Stores (k : Catalogue) (id : String) : Prop := ∃ c ∈ k.components, c.id = id

instance (k : Catalogue) (id : String) : Decidable (k.Stores id) :=
  inferInstanceAs (Decidable (∃ c ∈ k.components, c.id = id))

theorem stores_used_iff {uses : String → Nat} : (k.used uses).Stores id ↔ k.Stores id := by
  simp only [Stores, ← List.mem_map, map_id_used]

theorem find?_of_mem (hids : DistinctIds k.components) (hc : c ∈ k.components) :
    k.find? c.id = some c :=
  hids.find?_eq_some_iff.mpr ⟨hc, rfl⟩

theorem increment_of_mem (hids : DistinctIds k.components) (hc : c ∈ k.components) :
    k.increment c.id =
      .ok (counted c.popularity 1, k.used fun id => List.count id [c.id]) := by
  rw [increment, find?_of_mem hids hc]
  dsimp only [used]
  congr 3
  apply List.map_congr_left
  intro other hother
  by_cases hid : other.id = c.id
  · obtain rfl := hids.eq_of_id_eq hother hc hid
    simp [counted]
  · simp [hid, Ne.symm hid]

theorem increment_of_not_stores (h : ¬ k.Stores id) : k.increment id = .error (.notFound id) := by
  have hnone : k.find? id = none :=
    find?_eq_none_iff.mpr fun c hc hid => h ⟨c, hc, hid⟩
  rw [increment, hnone]

theorem after_increment (hids : DistinctIds k.components) (id : String) :
    k.after (.increment id) = k.used fun other => List.count other [id] := by
  by_cases h : k.Stores id
  · obtain ⟨c, hc, rfl⟩ := h
    rw [after, increment_of_mem hids hc]
    rfl
  · rw [after, increment_of_not_stores h, used_eq_self]
    · rfl
    · intro c hc
      exact List.count_singleton.trans (if_neg (by simpa using fun hid => h ⟨c, hc, hid.symm⟩))

/-- Increments one after another, all of which have to be granted. -/
def incrementAll (k : Catalogue) : List String → Except CatalogueError Catalogue
  | [] => .ok k
  | id :: rest => do
    let (_, next) ← k.increment id
    next.incrementAll rest

theorem incrementAll_of_stores (hids : DistinctIds k.components) {ids : List String}
    (h : ∀ id ∈ ids, k.Stores id) : k.incrementAll ids = .ok (k.used fun id => ids.count id) := by
  induction ids generalizing k with
  | nil => rw [incrementAll, used_eq_self fun _ _ => List.count_nil]
  | cons id rest ih =>
      obtain ⟨c, hc, rfl⟩ := h id List.mem_cons_self
      have hrest : ∀ id ∈ rest, (k.used fun id => List.count id [c.id]).Stores id :=
        fun id hid => stores_used_iff.mpr (h id (List.mem_cons_of_mem _ hid))
      calc k.incrementAll (c.id :: rest)
        _ = (k.used fun id => List.count id [c.id]).incrementAll rest := by
            rw [incrementAll, increment_of_mem hids hc]
            rfl
        _ = .ok (k.used fun id => (c.id :: rest).count id) := by
            rw [ih (distinctIds_used hids _) hrest, used_count_append]
            rfl

/-! ## Steps -/

/-- What a client does with a catalogue: it asks for something that may change the catalogue,
or is shown something. -/
inductive Step
  | ask (r : Request)
  | get (id : String)
  | list (f : ComponentFilter)
  | available

/-- The core components that a step is to put in the place of the stored ones. -/
def Step.seed? : Step → Option (List Component)
  | .ask r => r.seed?
  | .get _ | .list _ | .available => none

/-- The catalogue after a step. -/
def step (k : Catalogue) : Step → Catalogue
  | .ask r => k.after r
  | .get _ | .list _ | .available => k

/-- What a client can be shown. -/
inductive Shows (k : Catalogue) (c : Component) : Prop
  | got (id : String) (h : k.get id = .ok c)
  | listed (f : ComponentFilter) (h : c ∈ k.list f)
  | available (cs : List Component) (h : k.available = .ok cs) (hc : c ∈ cs)

/-- A step is an increment of an id. -/
def Step.increments (id : String) : Step → Bool
  | .ask (.increment other) => other == id
  | _ => false

/-- The uses of an id that a step counts: one, if it is an increment of the id and granted. -/
def counts (k : Catalogue) (id : String) (s : Step) : Nat :=
  if s.increments id && (k.increment id).isOk then 1 else 0

variable {s : Step}

theorem get_of_mem (hids : DistinctIds k.components) (hc : c ∈ k.components) :
    k.get c.id = .ok c := by
  rw [get, find?_of_mem hids hc]

theorem mem_of_mem_list {f : ComponentFilter} (h : c ∈ k.list f) : c ∈ k.components :=
  (List.mem_filter.mp (List.mem_mergeSort.mp h)).1

/-- Only stored components are ever shown. -/
theorem Shows.mem (h : k.Shows c) : c ∈ k.components := by
  cases h with
  | got id h =>
      unfold get at h
      split at h
      next hfind =>
        cases h
        exact List.mem_of_find?_eq_some hfind
      next => cases h
  | listed f h => exact mem_of_mem_list h
  | available cs h hc =>
      unfold Catalogue.available at h
      split at h
      next => cases h
      next =>
        cases h
        exact mem_of_mem_list hc

theorem Regular.step (hregular : k.Regular) (s : Step) : (k.step s).Regular := by
  cases s with
  | ask r => exact hregular.after r
  | get _ | list _ | available => exact hregular

theorem counts_of_stores (hids : DistinctIds k.components) (h : k.Stores id) (s : Step) :
    k.counts id s = if s.increments id then 1 else 0 := by
  obtain ⟨c, hc, rfl⟩ := h
  have hgranted : (k.increment c.id).isOk = true := by
    rw [increment_of_mem hids hc]
    rfl
  rw [counts, hgranted, Bool.and_true]

/-- A load comes to the same as its insertions one after another. -/
theorem after_load (k : Catalogue) (d : Directory) :
    k.after (.load d) = d.components.foldl (fun k c => k.after (.insertUser c)) k := by
  have hinserts : ∀ cs : List Component,
      (k.insertUsers cs).2 = cs.foldl (fun k c => k.after (.insertUser c)) k := by
    intro cs
    induction cs generalizing k with
    | nil => rfl
    | cons c rest ih =>
        rw [List.foldl_cons, ← ih, insertUsers, after]
        cases k.insertUser c <;> rfl
  exact hinserts d.components

/-- Only a reseed takes a component away, and nothing else changes more than its counter. -/
theorem mem_step_of_seed?_eq_none (hids : DistinctIds k.components) (hseed : s.seed? = none)
    (hc : c ∈ k.components) :
    { c with popularity := counted c.popularity (k.counts c.id s) } ∈ (k.step s).components := by
  cases s with
  | get _ | list _ | available => exact hc
  | ask r =>
      cases r with
      | seed | replaceCore _ => cases hseed
      | insertUser new =>
          change c ∈ ((k.insertUser new).toOption.getD k).components
          cases hinsert : k.insertUser new with
          | error e => exact hc
          | ok next =>
              obtain ⟨_, rfl⟩ := insertUser_eq_ok_iff.mp hinsert
              exact List.mem_append_left _ hc
      | load d =>
          exact insertUsers_induction (P := fun next => c ∈ next.components)
            (fun _ _ _ hmem => List.mem_append_left _ hmem) hc d.components
      | increment id =>
          have hcount : k.counts c.id (.ask (.increment id)) = List.count c.id [id] :=
            (counts_of_stores hids ⟨c, hc, rfl⟩ _).trans List.count_singleton.symm
          rw [hcount, step, after_increment hids]
          exact List.mem_map_of_mem hc

theorem popularity_reseed (hids : DistinctIds k.components) {cs : List Component}
    {next : Component} (hc : c ∈ k.components) (hnext : next ∈ (k.reseed cs).components)
    (hid : next.id = c.id) : next.popularity = c.popularity := by
  rcases List.mem_append.mp hnext with huser | hcore
  · rw [hids.eq_of_id_eq (List.mem_of_mem_filter huser) hc hid]
  · obtain ⟨given, _, rfl⟩ := List.mem_map.mp hcore
    rw [id_keepCounter] at hid
    rw [keepCounter, hid, find?_of_mem hids hc]

/-- What a step leaves under an id goes on with the counter of what was there. -/
theorem popularity_step (hregular : k.Regular) {next : Component} (hc : c ∈ k.components)
    (hnext : next ∈ (k.step s).components) (hid : next.id = c.id) :
    next.popularity = counted c.popularity (k.counts c.id s) := by
  have hreseed : ∀ cs, next ∈ ((k.replaceCore cs).toOption.elim k (·.2)).components →
      next.popularity = c.popularity := fun cs =>
    replaceCore_induction (P := fun k => next ∈ k.components → next.popularity = c.popularity)
      (fun _ hmem => popularity_reseed hregular.distinct hc hmem hid)
      fun hmem => by rw [hregular.distinct.eq_of_id_eq hmem hc hid]
  have hstep : s.seed? = none → next.popularity = counted c.popularity (k.counts c.id s) := by
    intro hseed
    have hmem := mem_step_of_seed?_eq_none hregular.distinct hseed hc
    rw [(hregular.step s).distinct.eq_of_id_eq hnext hmem hid]
  -- only a reseed takes another component in, and it keeps the counter
  match s with
  | .ask .seed => exact hreseed _ hnext
  | .ask (.replaceCore cs) => exact hreseed cs hnext
  | .ask (.insertUser _) | .ask (.load _) | .ask (.increment _) => exact hstep rfl
  | .get _ | .list _ | .available => exact hstep rfl

/-! ## Logs -/

section Logs

variable {κ : Type}

/-- The catalogue after the steps of a log. In a log the steps of all clients stand in the order
in which they are taken, each with its client. -/
def through (k : Catalogue) (log : List (κ × Step)) : Catalogue :=
  log.foldl (fun k entry => k.step entry.2) k

/-- The catalogue that a log leads to from the start. -/
def served (log : List (κ × Step)) : Catalogue := through .empty log

/-- The uses of an id that the steps of a log count. -/
def grants (k : Catalogue) (id : String) : List (κ × Step) → Nat
  | [] => 0
  | entry :: rest => k.counts id entry.2 + (k.step entry.2).grants id rest

theorem Regular.through (hregular : k.Regular) (log : List (κ × Step)) :
    (k.through log).Regular := by
  induction log generalizing k with
  | nil => exact hregular
  | cons entry rest ih => exact ih (hregular.step entry.2)

theorem regular_served (log : List (κ × Step)) : (served log).Regular :=
  (regular_run []).through log

theorem served_append (before since : List (κ × Step)) :
    served (before ++ since) = (served before).through since :=
  List.foldl_append

/-- A counter goes on through a log for as long as its id is stored. -/
theorem popularity_through (hregular : k.Regular) {log : List (κ × Step)}
    (hstored : ∀ front, front <+: log → (k.through front).Stores c.id) {last : Component}
    (hc : c ∈ k.components) (hlast : last ∈ (k.through log).components)
    (hid : last.id = c.id) : last.popularity = counted c.popularity (k.grants c.id log) := by
  induction log generalizing k c with
  | nil => rw [hregular.distinct.eq_of_id_eq hlast hc hid, grants, counted_zero]
  | cons entry rest ih =>
      -- what the first step leaves under the id carries the counter on
      obtain ⟨next, hnext, hnextId⟩ := hstored [entry] (List.prefix_append [entry] rest)
      have hrest : ∀ front, front <+: rest → ((k.step entry.2).through front).Stores next.id := by
        intro front hfront
        rw [hnextId]
        exact hstored (entry :: front) ((List.prefix_cons_inj entry).mpr hfront)
      rw [ih (hregular.step entry.2) hrest hnext hlast (hid.trans hnextId.symm), hnextId,
        popularity_step hregular hc hnext hnextId, counted_counted, grants]

/-- While an id is stored, all increments of it are granted. -/
theorem grants_of_stored (hregular : k.Regular) {log : List (κ × Step)}
    (hstored : ∀ front, front <+: log → (k.through front).Stores id) :
    k.grants id log = log.countP fun entry => entry.2.increments id := by
  induction log generalizing k with
  | nil => rfl
  | cons entry rest ih =>
      have hrest : ∀ front, front <+: rest → ((k.step entry.2).through front).Stores id :=
        fun front hfront => hstored (entry :: front) ((List.prefix_cons_inj entry).mpr hfront)
      have hfirst := hstored [] List.nil_prefix
      rw [grants, ih (hregular.step entry.2) hrest, counts_of_stores hregular.distinct hfirst,
        List.countP_cons, Nat.add_comm]

/-- What a client does in a log, in its own order. -/
def stepsOf [DecidableEq κ] (client : κ) (log : List (κ × Step)) : List Step :=
  (log.filter fun entry => entry.1 = client).map (·.2)

/-- How often a stored id is counted depends on what each client does, and not on the order in
which their steps are taken. -/
theorem grants_eq_sum_clients [DecidableEq κ] [Fintype κ] (hregular : k.Regular)
    {log : List (κ × Step)}
    (hstored : ∀ front, front <+: log → (k.through front).Stores id) :
    k.grants id log = ∑ client, (stepsOf client log).countP (Step.increments id) := by
  rw [grants_of_stored hregular hstored]
  clear hstored
  induction log with
  | nil => simp [stepsOf]
  | cons entry rest ih =>
      have hclient : ∀ client, (stepsOf client (entry :: rest)).countP (Step.increments id) =
          (stepsOf client rest).countP (Step.increments id) +
            if entry.1 = client then if entry.2.increments id then 1 else 0 else 0 := by
        intro client
        by_cases hentry : entry.1 = client
        · simp [stepsOf, hentry, List.countP_cons]
        · simp [stepsOf, hentry]
      simp only [hclient, Finset.sum_add_distrib, Finset.sum_ite_eq, Finset.mem_univ, if_true]
      rw [List.countP_cons, ih]

/-- No use of a component is lost. What is shown of an id that has been stored for some time has
been used once more for each increment that was granted in this time, whoever asked for it and
whatever else was done. Increments of stored ids are granted, and come to the same in any order;
one of another id is refused and changes nothing. All that is not a reseed leaves the stored
components as they are but for their counters. -/
theorem counters_served (before since : List (κ × Step)) :
    (∀ id, (∀ front, front <+: since → (served (before ++ front)).Stores id) →
      ∃ first last, (served before).get id = .ok first ∧
        (served (before ++ since)).get id = .ok last ∧
        (∀ c, (served (before ++ since)).Shows c → c.id = id → c = last) ∧
        last.popularity = counted first.popularity ((served before).grants id since) ∧
        (first.popularity + (served before).grants id since < UInt64.size →
          last.popularity = first.popularity + (served before).grants id since)) ∧
    (∀ ids others : List String, (∀ id ∈ ids, (served before).Stores id) → ids.Perm others →
      ∃ next, (served before).incrementAll ids = .ok next ∧
        (served before).incrementAll others = .ok next) ∧
    (∀ id, ¬ (served before).Stores id →
      (served before).increment id = .error (.notFound id) ∧
        (served before).step (.ask (.increment id)) = served before) ∧
    ∀ s : Step, s.seed? = none → ∀ c ∈ (served before).components,
      { c with popularity := counted c.popularity ((served before).counts c.id s) } ∈
        ((served before).step s).components := by
  have hregular := regular_served before
  have hids := hregular.distinct
  refine ⟨?_, ?_, ?_, ?_⟩
  · intro id hstored
    simp only [served_append] at hstored ⊢
    have hlastIds := (hregular.through since).distinct
    obtain ⟨first, hfirst, rfl⟩ := hstored [] List.nil_prefix
    obtain ⟨last, hlast, hid⟩ := hstored since (List.prefix_refl since)
    have hpopularity := popularity_through hregular hstored hfirst hlast hid
    refine ⟨first, last, get_of_mem hids hfirst, ?_, ?_, hpopularity, ?_⟩
    · rw [← hid]
      exact get_of_mem hlastIds hlast
    · intro c hshown hcid
      exact hlastIds.eq_of_id_eq hshown.mem hlast (hcid.trans hid.symm)
    · intro hsmall
      rw [hpopularity, counted_of_lt hsmall]
  · intro ids others hstored hperm
    refine ⟨_, incrementAll_of_stores hids hstored, ?_⟩
    rw [incrementAll_of_stores hids fun id hid => hstored id (hperm.mem_iff.mpr hid)]
    simp only [hperm.count_eq]
  · intro id hid
    refine ⟨increment_of_not_stores hid, ?_⟩
    rw [step, after, increment_of_not_stores hid]
    rfl
  · intro s hseed c hc
    exact mem_step_of_seed?_eq_none hids hseed hc

end Logs

/-- One client stores the closing slide of the library. -/
def closingStored : List (Bool × Step) := [(false, .ask (.replaceCore [Library.thankYou]))]

/-- Two clients use it, and one of them stores it again in between. -/
def closingUsed : List (Bool × Step) :=
  [(true, .ask (.increment "core.thank-you")),
    (false, .ask (.replaceCore [Library.thankYou])),
    (true, .list {}),
    (false, .ask (.increment "core.thank-you"))]

/-- Both uses are counted. -/
theorem counters_served_thankYou : ∃ last,
    (served (closingStored ++ closingUsed)).get "core.thank-you" = .ok last ∧
      last.popularity = 2 := by
  have hstored : ∀ front ∈ closingUsed.inits,
      (served (closingStored ++ front)).Stores "core.thank-you" := by
    decide +kernel
  have hstart : ((served closingStored).get "core.thank-you").toOption.map (·.popularity) =
      some 0 := by
    decide +kernel
  have hgrants : (served closingStored).grants "core.thank-you" closingUsed = 2 := by
    decide +kernel
  obtain ⟨first, last, hfirst, hlast, _, hpopularity, _⟩ :=
    (counters_served closingStored closingUsed).1 "core.thank-you" fun front hfront =>
      hstored front ((List.mem_inits _ _).mpr hfront)
  have hzero : first.popularity = 0 := by
    rw [hfirst] at hstart
    exact Option.some.inj hstart
  refine ⟨last, hlast, ?_⟩
  rw [hpopularity, hzero, hgrants]
  rfl

end SlideDeck.Catalogue
