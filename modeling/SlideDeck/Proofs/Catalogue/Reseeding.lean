import SlideDeck.Proofs.Catalogue.NaturalKeys

/-!
# Reseeding

Core components are put in the place of others all at once. A set of them that is refused
changes nothing, and the error names the first thing that is wrong with it. A set that is
granted is what there is of core components from then on: user components stay, and the
counters of all ids that stay go on. Granted a second time, it makes no difference.
-/

namespace SlideDeck.Catalogue

/-! ## Refusals -/

/-- An element is the first of a list for which something holds. -/
def IsFirst {α : Type} (P : α → Prop) (xs : List α) (x : α) : Prop :=
  ∃ front back, xs = front ++ x :: back ∧ P x ∧ ∀ y ∈ front, ¬ P y

theorem find?_eq_some_iff_isFirst {α : Type} {P : α → Prop} {p : α → Bool} {xs : List α} {x : α}
    (hp : ∀ y, p y = true ↔ P y) : xs.find? p = some x ↔ IsFirst P xs x := by
  rw [List.find?_eq_some_iff_append]
  simp only [Bool.not_eq_eq_eq_not, Bool.not_true, ← Bool.not_eq_true, hp]
  constructor
  · rintro ⟨hx, front, back, hxs, hfront⟩
    exact ⟨front, back, hxs, hx, hfront⟩
  · rintro ⟨front, back, hxs, hx, hfront⟩
    exact ⟨hx, front, back, hxs, hfront⟩

theorem IsFirst.ne_nil {α : Type} {P : α → Prop} {xs : List α} {x : α} (h : IsFirst P xs x) :
    xs ≠ [] := by
  obtain ⟨front, back, rfl, _⟩ := h
  simp

/-- A component has the id of an earlier one, or a new id and the natural key of an earlier
one. -/
inductive Repeats (earlier : List Component) (c : Component) : CatalogueError → Prop
  | id (hid : ∃ s ∈ earlier, s.id = c.id) : Repeats earlier c (.duplicateId c.id)
  | key (hnew : ∀ s ∈ earlier, s.id ≠ c.id) (hkey : ∃ s ∈ earlier, s.naturalKey = c.naturalKey) :
      Repeats earlier c (.duplicateKey c.name c.category)

section Repetitions

variable {seen rest cs : List Component} {c : Component} {e : CatalogueError}

/-- A component has neither the id nor the natural key of an earlier one. -/
def IsNovel (earlier : List Component) (c : Component) : Prop :=
  ∀ s ∈ earlier, s.id ≠ c.id ∧ s.naturalKey ≠ c.naturalKey

theorem repeats_or_isNovel (earlier : List Component) (c : Component) :
    (∃ e, Repeats earlier c e) ∨ IsNovel earlier c := by
  by_cases hid : ∃ s ∈ earlier, s.id = c.id
  · exact .inl ⟨_, .id hid⟩
  · simp only [not_exists, not_and] at hid
    by_cases hkey : ∃ s ∈ earlier, s.naturalKey = c.naturalKey
    · exact .inl ⟨_, .key hid hkey⟩
    · simp only [not_exists, not_and] at hkey
      exact .inr fun s hs => ⟨hid s hs, hkey s hs⟩

theorem Repeats.congr {others : List Component} (hmem : ∀ s, s ∈ seen ↔ s ∈ others)
    (h : Repeats seen c e) : Repeats others c e := by
  cases h with
  | id hid => exact .id (by simpa only [hmem] using hid)
  | key hnew hkey => exact .key (by simpa only [hmem] using hnew) (by simpa only [hmem] using hkey)

theorem repetition?_cons_of_repeats (h : Repeats seen c e) :
    repetition? seen (c :: rest) = some e := by
  cases h with
  | id hid =>
      have hany : (seen.any fun s => s.id == c.id) = true := by simpa using hid
      rw [repetition?, if_pos hany]
  | key hnew hkey =>
      have hany : ¬ (seen.any fun s => s.id == c.id) = true := by simpa using hnew
      have hanyKey : (seen.any fun s => s.naturalKey == c.naturalKey) = true := by
        simpa using hkey
      rw [repetition?, if_neg hany, if_pos hanyKey]

theorem repetition?_cons_of_isNovel (h : IsNovel seen c) :
    repetition? seen (c :: rest) = repetition? (c :: seen) rest := by
  have hany : ¬ (seen.any fun s => s.id == c.id) = true := by
    simpa using fun s hs => (h s hs).1
  have hanyKey : ¬ (seen.any fun s => s.naturalKey == c.naturalKey) = true := by
    simpa using fun s hs => (h s hs).2
  rw [repetition?, if_neg hany, if_neg hanyKey]

/-- The error is that of the first component that repeats something. -/
theorem repetition?_eq_some_iff :
    repetition? seen cs = some e ↔
      ∃ front c back, cs = front ++ c :: back ∧ repetition? seen front = none ∧
        Repeats (front.reverse ++ seen) c e := by
  constructor
  · intro h
    induction cs generalizing seen with
    | nil => cases h
    | cons first rest ih =>
        rcases repeats_or_isNovel seen first with ⟨e', hrepeats⟩ | hnovel
        · rw [repetition?_cons_of_repeats hrepeats] at h
          cases h
          exact ⟨[], first, rest, rfl, rfl, hrepeats⟩
        · rw [repetition?_cons_of_isNovel hnovel] at h
          obtain ⟨front, c, back, rfl, hfront, hrepeats⟩ := ih h
          refine ⟨first :: front, c, back, rfl, ?_, ?_⟩
          · rwa [repetition?_cons_of_isNovel hnovel]
          · rwa [List.reverse_cons, List.append_assoc, List.singleton_append]
  · rintro ⟨front, c, back, rfl, hfront, hrepeats⟩
    induction front generalizing seen with
    | nil => exact repetition?_cons_of_repeats hrepeats
    | cons first front ih =>
        obtain ⟨hnovel, hfront⟩ := repetition?_cons_eq_none_iff.mp hfront
        rw [List.reverse_cons, List.append_assoc, List.singleton_append] at hrepeats
        rw [List.cons_append, repetition?_cons_of_isNovel hnovel]
        exact ih hfront hrepeats

/-- Looked through from the start, components are distinct in front of the first that repeats
something. -/
theorem repetition?_nil_eq_some_iff :
    repetition? [] cs = some e ↔
      ∃ front c back, cs = front ++ c :: back ∧ DistinctIds front ∧
        (front.map (·.naturalKey)).Nodup ∧ Repeats front c e := by
  have hfront : ∀ front, repetition? [] front = none ↔
      DistinctIds front ∧ (front.map (·.naturalKey)).Nodup := by
    intro front
    rw [repetition?_eq_none_iff]
    simp
  have hmem : ∀ (front : List Component) s, s ∈ front.reverse ++ [] ↔ s ∈ front := by simp
  rw [repetition?_eq_some_iff]
  simp only [hfront, and_assoc]
  constructor
  · rintro ⟨front, c, back, hcs, hdistinct, hkeys, hrepeats⟩
    exact ⟨front, c, back, hcs, hdistinct, hkeys, hrepeats.congr (hmem front)⟩
  · rintro ⟨front, c, back, hcs, hdistinct, hkeys, hrepeats⟩
    exact ⟨front, c, back, hcs, hdistinct, hkeys, hrepeats.congr fun s => (hmem front s).symm⟩

end Repetitions

/-- A user component is stored under an id. -/
def StoresUser (k : Catalogue) (id : String) : Prop :=
  ∃ u ∈ k.components, u.id = id ∧ u.origin = .user

/-- Why components cannot take the place of the stored core components: there are none, or
one of them is not a core component, or one repeats what an earlier one has, or one has the
id of a user component. What comes first in this order is named, and the first component
that it is true of. -/
inductive Refuses (k : Catalogue) (cs : List Component) : CatalogueError → Prop
  | empty (hcs : cs = []) : Refuses k cs .emptySeed
  | notCore {c : Component} (hfirst : IsFirst (·.origin ≠ .core) cs c) :
      Refuses k cs (.notCore c.id)
  | repeated {front back : List Component} {c : Component} {e : CatalogueError}
      (hcore : ∀ s ∈ cs, s.origin = .core) (hcs : cs = front ++ c :: back)
      (hdistinct : DistinctIds front) (hkeys : (front.map (·.naturalKey)).Nodup)
      (hrepeats : Repeats front c e) : Refuses k cs e
  | user {c : Component} (hcore : ∀ s ∈ cs, s.origin = .core) (hdistinct : DistinctIds cs)
      (hkeys : (cs.map (·.naturalKey)).Nodup)
      (hfirst : IsFirst (fun s => k.StoresUser s.id) cs c) : Refuses k cs (.duplicateId c.id)

variable {k : Catalogue} {cs : List Component}

theorem any_find?_user_iff (hdistinct : DistinctIds k.components) {id : String} :
    ((k.find? id).any fun old => old.origin == .user) = true ↔ k.StoresUser id := by
  rw [Option.any_eq_true]
  simp only [find?, hdistinct.find?_eq_some_iff, beq_iff_eq, and_assoc]
  rfl

theorem seedRefusal?_of_core (hnonempty : cs ≠ []) (hcore : ∀ c ∈ cs, c.origin = .core) :
    k.seedRefusal? cs = (repetition? [] cs).or
      ((cs.find? fun c => (k.find? c.id).any fun old => old.origin == .user).map
        fun c => .duplicateId c.id) := by
  have hfind : (cs.find? fun c => c.origin != .core) = none := by simpa using hcore
  rw [seedRefusal?, if_neg (by simpa using hnonempty), hfind]
  cases repetition? [] cs <;> rfl

/-- A set of components is refused for the first thing that is wrong with it. -/
theorem seedRefusal?_eq_some_iff (hdistinct : DistinctIds k.components) {e : CatalogueError} :
    k.seedRefusal? cs = some e ↔ k.Refuses cs e := by
  have hnotCore : ∀ {c}, cs.find? (fun c => c.origin != .core) = some c ↔
      IsFirst (·.origin ≠ .core) cs c := find?_eq_some_iff_isFirst fun c => bne_iff_ne
  have huser : ∀ {c}, (cs.find? fun c => (k.find? c.id).any fun old => old.origin == .user) =
      some c ↔ IsFirst (fun s => k.StoresUser s.id) cs c :=
    find?_eq_some_iff_isFirst fun _ => any_find?_user_iff hdistinct
  constructor
  · intro h
    by_cases hempty : cs = []
    · subst hempty
      cases h
      exact .empty rfl
    · by_cases hcore : ∀ c ∈ cs, c.origin = .core
      · rw [seedRefusal?_of_core hempty hcore, Option.or_eq_some_iff] at h
        rcases h with hrepetition | ⟨hrepetition, huserFound⟩
        · obtain ⟨front, c, back, hcs, hids, hkeys, hrepeats⟩ :=
            repetition?_nil_eq_some_iff.mp hrepetition
          exact .repeated hcore hcs hids hkeys hrepeats
        · obtain ⟨hids, hkeys, _⟩ := repetition?_eq_none_iff.mp hrepetition
          obtain ⟨c, hfind, rfl⟩ := Option.map_eq_some_iff.mp huserFound
          exact .user hcore hids hkeys (huser.mp hfind)
      · have hsome : cs.find? (fun c => c.origin != .core) ≠ none := by simpa using hcore
        obtain ⟨c, hfind⟩ := Option.ne_none_iff_exists'.mp hsome
        rw [seedRefusal?, if_neg (by simpa using hempty), hfind] at h
        cases h
        exact .notCore (hnotCore.mp hfind)
  · intro h
    cases h with
    | empty hcs =>
        subst hcs
        rfl
    | notCore hfirst =>
        rw [seedRefusal?, if_neg (by simpa using hfirst.ne_nil), hnotCore.mpr hfirst]
    | repeated hcore hcs hids hkeys hrepeats =>
        have hnonempty : cs ≠ [] := by simp [hcs]
        have hrepetition := repetition?_nil_eq_some_iff.mpr ⟨_, _, _, hcs, hids, hkeys, hrepeats⟩
        rw [seedRefusal?_of_core hnonempty hcore, hrepetition]
        rfl
    | user hcore hids hkeys hfirst =>
        have hrepetition : repetition? [] cs = none :=
          repetition?_eq_none_iff.mpr ⟨hids, hkeys, by simp⟩
        rw [seedRefusal?_of_core hfirst.ne_nil hcore, hrepetition, huser.mpr hfirst]
        rfl

/-- Something is wrong with a set of components just when it cannot take the place of the
stored ones. -/
theorem exists_refuses_iff (hdistinct : DistinctIds k.components) :
    (∃ e, k.Refuses cs e) ↔ cs = [] ∨ (∃ c ∈ cs, c.origin ≠ .core) ∨ ¬ DistinctIds cs ∨
      ¬ (cs.map (·.naturalKey)).Nodup ∨ ∃ c ∈ cs, k.StoresUser c.id := by
  have hseedable : (∃ e, k.Refuses cs e) ↔ ¬ k.Seedable cs := by
    simp only [← seedRefusal?_eq_some_iff hdistinct, ← seedRefusal?_eq_none_iff, ← ne_eq,
      Option.ne_none_iff_exists']
  have huser : (∀ c ∈ cs, ∀ old, k.find? c.id = some old → old.origin ≠ .user) ↔
      ∀ c ∈ cs, ¬ k.StoresUser c.id := by
    refine forall₂_congr fun c _ => ?_
    rw [← any_find?_user_iff hdistinct, Option.any_eq_true]
    simp
  have hparts : k.Seedable cs ↔ cs ≠ [] ∧ (∀ c ∈ cs, c.origin = .core) ∧ DistinctIds cs ∧
      (cs.map (·.naturalKey)).Nodup ∧ ∀ c ∈ cs, ¬ k.StoresUser c.id := by
    rw [← huser]
    exact ⟨fun h => ⟨h.nonempty, h.core, h.distinct, h.keys, h.notUser⟩,
      fun ⟨hnonempty, hcore, hids, hkeys, hnotUser⟩ =>
        ⟨hnonempty, hcore, hids, hkeys, hnotUser⟩⟩
  rw [hseedable, hparts]
  simp only [not_and_or, not_not, ne_eq, not_forall, exists_prop]

/-! ## What is granted -/

/-- A core component as it is stored: with the counter of the stored component of its id, or
with its own where there is none. -/
inductive Enters (k : Catalogue) (c : Component) : Component → Prop
  | counted {old : Component} (hold : old ∈ k.components) (hid : old.id = c.id) :
      Enters k c { c with popularity := old.popularity }
  | fresh (hnew : ∀ old ∈ k.components, old.id ≠ c.id) : Enters k c c

theorem enters_iff (hdistinct : DistinctIds k.components) {c stored : Component} :
    k.Enters c stored ↔ stored = k.keepCounter c := by
  unfold keepCounter
  cases hfind : k.find? c.id with
  | none =>
      have hnew := find?_eq_none_iff.mp hfind
      refine ⟨fun h => ?_, fun h => h ▸ .fresh hnew⟩
      cases h with
      | counted hold hid => exact absurd hid (hnew _ hold)
      | fresh _ => rfl
  | some old =>
      obtain ⟨hold, hid⟩ := hdistinct.find?_eq_some_iff.mp hfind
      refine ⟨fun h => ?_, fun h => h ▸ .counted hold hid⟩
      cases h with
      | counted hother hotherId =>
          rw [hdistinct.eq_of_id_eq hother hold (hotherId.trans hid.symm)]
      | fresh hnew => exact absurd hid (hnew old hold)

/-- A catalogue behind a reseed: the user components as they were, and the given core
components with the counters of the ids that stay. -/
structure Reseeds (k : Catalogue) (cs : List Component) (report : ReseedReport)
    (next : Catalogue) : Prop where
  mem_iff : ∀ c, c ∈ next.components ↔
    c ∈ k.components ∧ c.origin = .user ∨ ∃ s ∈ cs, k.Enters s c
  distinct : DistinctIds next.components
  size : next.components.length =
    (k.components.filter fun c => c.origin == .user).length + cs.length
  removed : report.removed = (k.components.filter fun c => c.origin == .core).length
  inserted : report.inserted = cs.length

theorem replaceCore_of_seedable (h : k.Seedable cs) :
    k.replaceCore cs =
      .ok (⟨(k.components.filter fun c => c.origin == .core).length, cs.length⟩,
        k.reseed cs) := by
  rw [replaceCore, seedRefusal?_eq_none_iff.mpr h]
  rfl

theorem Regular.reseeds (hregular : k.Regular) (h : k.Seedable cs) :
    k.Reseeds cs ⟨(k.components.filter fun c => c.origin == .core).length, cs.length⟩
      (k.reseed cs) where
  mem_iff c := by
    have hcores : c ∈ cs.map k.keepCounter ↔ ∃ s ∈ cs, k.Enters s c := by
      simp only [List.mem_map, enters_iff hregular.distinct, eq_comm (a := c)]
    rw [Catalogue.reseed, List.mem_append, List.mem_filter, hcores, beq_iff_eq]
  distinct := (hregular.reseed h).distinct
  size := by rw [Catalogue.reseed, List.length_append, List.length_map]
  removed := rfl
  inserted := rfl

theorem Regular.find?_reseed (hregular : k.Regular) (h : k.Seedable cs) {c : Component}
    (hc : c ∈ cs) : (k.reseed cs).find? c.id = some (k.keepCounter c) :=
  (hregular.reseed h).distinct.find?_eq_some_iff.mpr
    ⟨List.mem_append_right _ (List.mem_map_of_mem hc), id_keepCounter k c⟩

/-- What has been granted is granted again. -/
theorem Regular.seedable_reseed (hregular : k.Regular) (h : k.Seedable cs) :
    (k.reseed cs).Seedable cs where
  nonempty := h.nonempty
  core := h.core
  distinct := h.distinct
  keys := h.keys
  notUser c hc old hold := by
    rw [hregular.find?_reseed h hc] at hold
    cases hold
    rw [origin_keepCounter, h.core c hc]
    exact nofun

/-- Granted a second time, a reseed makes no difference. -/
theorem Regular.reseed_reseed (hregular : k.Regular) (h : k.Seedable cs) :
    (k.reseed cs).reseed cs = k.reseed cs := by
  have hcores : cs.map (k.reseed cs).keepCounter = cs.map k.keepCounter := by
    apply List.map_congr_left
    intro c hc
    rw [keepCounter, hregular.find?_reseed h hc]
    unfold keepCounter
    cases k.find? c.id <;> rfl
  rw [Catalogue.reseed, filter_user_reseed h, hcores]
  rfl

/-- A reseed is done in full or not at all. It is refused for the first thing that is wrong
with the given components, and then nothing changes. Otherwise the catalogue holds the user
components that it held and the given components, of which those whose ids were taken keep
the counters of these ids; the same request again changes nothing. -/
theorem replaceCore_run (requests : List Request) (cs : List Component) :
    (∀ e, (run requests).replaceCore cs = .error e ↔ (run requests).Refuses cs e) ∧
    ((∃ e, (run requests).Refuses cs e) ↔ cs = [] ∨ (∃ c ∈ cs, c.origin ≠ .core) ∨
      ¬ DistinctIds cs ∨ ¬ (cs.map (·.naturalKey)).Nodup ∨
        ∃ c ∈ cs, (run requests).StoresUser c.id) ∧
    (∀ e, (run requests).Refuses cs e →
      run (requests ++ [.replaceCore cs]) = run requests) ∧
    ((∀ e, ¬ (run requests).Refuses cs e) → ∃ report,
      (run requests).replaceCore cs = .ok (report, run (requests ++ [.replaceCore cs])) ∧
      (run requests).Reseeds cs report (run (requests ++ [.replaceCore cs])) ∧
      (run (requests ++ [.replaceCore cs])).replaceCore cs =
        .ok (⟨cs.length, cs.length⟩, run (requests ++ [.replaceCore cs]))) := by
  have hregular := regular_run requests
  have hlast : run (requests ++ [.replaceCore cs]) = (run requests).after (.replaceCore cs) :=
    List.foldl_concat ..
  have herror : ∀ e, (run requests).replaceCore cs = .error e ↔ (run requests).Refuses cs e := by
    intro e
    rw [← seedRefusal?_eq_some_iff hregular.distinct, replaceCore]
    cases (run requests).seedRefusal? cs <;> simp
  refine ⟨herror, exists_refuses_iff hregular.distinct, ?_, ?_⟩
  · intro e he
    rw [hlast, after, (herror e).mpr he]
    rfl
  · intro hgranted
    have hseedable : (run requests).Seedable cs := by
      rw [← seedRefusal?_eq_none_iff, Option.eq_none_iff_forall_ne_some]
      intro e he
      exact hgranted e ((seedRefusal?_eq_some_iff hregular.distinct).mp he)
    rw [hlast, after_of_seedable rfl hseedable]
    refine ⟨_, replaceCore_of_seedable hseedable, hregular.reseeds hseedable, ?_⟩
    rw [replaceCore_of_seedable (hregular.seedable_reseed hseedable),
      hregular.reseed_reseed hseedable, filter_core_reseed hseedable, List.length_map]

/-- The closing slide of the library is stored and used once. -/
def closingUsedOnce : List Request :=
  [.replaceCore [Library.thankYou], .increment Library.thankYou.id]

/-- Stored again, it has been used once still. -/
theorem replaceCore_run_thankYou : ∃ next,
    (run closingUsedOnce).replaceCore [Library.thankYou] = .ok (⟨1, 1⟩, next) ∧
      next.replaceCore [Library.thankYou] = .ok (⟨1, 1⟩, next) ∧
      { Library.thankYou with popularity := 1 } ∈ next.components := by
  obtain ⟨herror, _, _, hgranted⟩ := replaceCore_run closingUsedOnce [Library.thankYou]
  have hok : ((run closingUsedOnce).replaceCore [Library.thankYou]).isOk = true := by
    decide +kernel
  have hold : ∃ old ∈ (run closingUsedOnce).components,
      old.id = Library.thankYou.id ∧ old.popularity = 1 := by
    decide +kernel
  have hremoved : ((run closingUsedOnce).components.filter fun c => c.origin == .core).length =
      1 := by
    decide +kernel
  obtain ⟨⟨removed, inserted⟩, hreplace, hreseeds, hagain⟩ := hgranted fun e he => by
    rw [(herror e).mpr he] at hok
    cases hok
  obtain rfl : removed = 1 := hreseeds.removed.trans hremoved
  obtain rfl : inserted = 1 := hreseeds.inserted
  refine ⟨_, hreplace, hagain, ?_⟩
  obtain ⟨old, hmem, hid, hcount⟩ := hold
  have henters := Enters.counted hmem hid
  rw [hcount] at henters
  exact (hreseeds.mem_iff _).mpr (.inr ⟨_, List.mem_singleton_self _, henters⟩)

end SlideDeck.Catalogue
