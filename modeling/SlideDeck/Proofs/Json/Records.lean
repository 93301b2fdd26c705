import SlideDeck.Proofs.Json.Normal

/-!
# Decoding what has been written

A record is decoded by the names of its members, so their order and the order in which they are
asked for do not matter: each name leads to the draft of the value that has been written for it.
Lists come back item by item.
-/

namespace SlideDeck.Json

/-! ## Records -/

/-- The members of a record of values, as they are decoded. -/
def recordOf (members : List (String × Json)) : Record := Draft.ofMembers (arrange members)

theorem lookup_ofMembers (members : List (String × Json)) (name : String) :
    (Draft.ofMembers members).lookup name = (members.lookup name).map Draft.ofJson := by
  induction members with
  | nil => rfl
  | cons member rest ih =>
      obtain ⟨first, j⟩ := member
      rw [Draft.ofMembers, List.lookup_cons, List.lookup_cons, ih]
      split <;> rfl

/-- A name leads to the value that has been written for it. -/
theorem lookup_recordOf (members : List (String × Json)) (name : String) :
    (recordOf members).lookup name = (members.lookup name).map Draft.ofJson := by
  rw [recordOf, lookup_ofMembers, lookup_arrange]

/-- An object of different names is decoded whatever names are known. -/
theorem record?_object {members : List (String × Draft)} (hnames : (members.map Prod.fst).Nodup)
    (known : List String) : (Draft.object members).record? known = some members := by
  have hcount : ∀ name, (members.filter (·.1 == name)).length ≤ 1 := by
    intro name
    have hle := List.nodup_iff_count_le_one.mp hnames name
    rwa [List.count_eq_countP, List.countP_map, List.countP_eq_length_filter] at hle
  exact if_pos (List.all_eq_true.mpr fun name _ => decide_eq_true (hcount name))

/-- A record of different names is decoded whatever names are known. -/
theorem record?_ofMembers {members : List (String × Json)} (hnames : (members.map Prod.fst).Nodup)
    (known : List String) :
    (Draft.ofJson (ofMembers members)).record? known = some (recordOf members) := by
  have hfst : (recordOf members).map Prod.fst = (arrange members).map Prod.fst := by
    rw [recordOf, Draft.ofMembers_eq_map, List.map_map]
    rfl
  have hdistinct : ((recordOf members).map Prod.fst).Nodup := by
    rw [hfst]
    exact ((arrange_perm members).map Prod.fst).nodup_iff.mpr hnames
  exact record?_object hdistinct known

theorem zip_names_sublist (known : List String) (items : List Draft) :
    ((known.zip items).map Prod.fst).Sublist known := by
  induction known generalizing items with
  | nil => exact List.nil_sublist _
  | cons name rest ih =>
      cases items with
      | nil => exact List.nil_sublist _
      | cons item items => exact (ih items).cons_cons name

/-- An array is decoded as the object is that has its items for members. -/
theorem record?_array {known : List String} (hknown : known.Nodup) {items : List Draft}
    (hitems : items.length ≤ known.length) :
    (Draft.array items).record? known = (Draft.object (known.zip items)).record? known :=
  (if_pos hitems).trans
    (record?_object ((zip_names_sublist known items).nodup hknown) known).symm

/-- The kind of a record of different names is the draft of the value that has been written for
it. -/
theorem tagged?_ofMembers {members : List (String × Json)}
    (hnames : (members.map Prod.fst).Nodup) {name : String} {j : Json}
    (hj : members.lookup name = some j) :
    (Draft.ofJson (ofMembers members)).tagged? name =
      some ⟨Draft.ofJson j, Draft.ofJson (ofMembers members)⟩ := by
  have hrecord := record?_ofMembers hnames [name]
  have hlookup : (recordOf members).lookup name = some (Draft.ofJson j) := by
    rw [lookup_recordOf, hj]
    rfl
  have hform : Draft.ofJson (ofMembers members) = .object (recordOf members) := rfl
  rw [hform] at hrecord ⊢
  simp only [Draft.tagged?, hrecord, Option.bind_eq_bind, Option.bind_some, hlookup]
  rfl

/-- Where names differ each of them leads to its value. -/
theorem lookup_eq_of_mem {members : List (String × Json)} (hnames : (members.map Prod.fst).Nodup)
    {m : String × Json} (h : m ∈ members) : members.lookup m.1 = some m.2 := by
  induction members with
  | nil => cases h
  | cons first rest ih =>
      obtain ⟨hnew, hrest⟩ := List.nodup_cons.mp hnames
      rw [List.lookup_cons]
      rcases List.mem_cons.mp h with rfl | h
      · rw [beq_self_eq_true]
      · have hne : m.1 ≠ first.1 := fun heq => hnew (heq ▸ List.mem_map_of_mem h)
        rw [beq_false_of_ne hne]
        exact ih hrest h

section Member

variable {α : Type} {members : List (String × Json)} {name : String} {j : Json}
  {value : Decoder α} {x : α}

theorem required_recordOf (hj : members.lookup name = some j)
    (hvalue : value (Draft.ofJson j) = some x) :
    (recordOf members).required name value = some x := by
  rw [Record.required, lookup_recordOf, hj]
  exact hvalue

theorem optional_recordOf (hj : members.lookup name = some j) (absent : α)
    (hvalue : value (Draft.ofJson j) = some x) :
    (recordOf members).optional name absent value = some x := by
  rw [Record.optional, lookup_recordOf, hj]
  exact hvalue

theorem nullable_ofOption {encode : α → Json} {found : Option α}
    (h : ∀ x ∈ found, value (Draft.ofJson (encode x)) = some x ∧ encode x ≠ .null) :
    Decoder.nullable value (Draft.ofJson (ofOption found encode)) = some found := by
  cases found with
  | none => rfl
  | some x =>
      obtain ⟨hvalue, hnull⟩ := h x rfl
      change Decoder.nullable value (Draft.ofJson (encode x)) = _
      have hdraft : Draft.ofJson (encode x) ≠ .null := by
        cases hx : encode x <;> simp_all [Draft.ofJson]
      unfold Decoder.nullable
      split
      next heq => exact absurd heq hdraft
      next => rw [hvalue]; rfl

/-- A member that is null where there is no value comes back. -/
theorem nullable_recordOf {encode : α → Json} {found : Option α}
    (hj : members.lookup name = some (ofOption found encode))
    (h : ∀ x ∈ found, value (Draft.ofJson (encode x)) = some x ∧ encode x ≠ .null) :
    (recordOf members).nullable name value = some found :=
  optional_recordOf hj none (nullable_ofOption h)

theorem optional_recordOf_absent (h : members.lookup name = none) (absent : α)
    (value : Decoder α) : (recordOf members).optional name absent value = some absent := by
  rw [Record.optional, lookup_recordOf, h]
  rfl

/-- A member that is left out where there is no value comes back. -/
theorem nullable_recordOf_map {encode : α → Json} {found : Option α}
    (hj : members.lookup name = found.map encode)
    (h : ∀ x ∈ found, value (Draft.ofJson (encode x)) = some x ∧ encode x ≠ .null) :
    (recordOf members).nullable name value = some found := by
  cases found with
  | none => exact optional_recordOf_absent hj none _
  | some x => exact optional_recordOf hj none (nullable_ofOption h)

end Member

theorem lookup_memberIf {α : Type} (name other : String) (value : Option α) (encode : α → Json) :
    (memberIf other value encode).lookup name =
      if name == other then value.map encode else none := by
  cases value with
  | none => simp [memberIf]
  | some x =>
      change List.lookup name [(other, encode x)] = _
      rw [List.lookup_cons]
      cases name == other <;> rfl

theorem memberIf_names_sublist {α : Type} (name : String) (value : Option α) (encode : α → Json) :
    ((memberIf name value encode).map Prod.fst).Sublist [name] := by
  cases value with
  | none => exact List.nil_sublist _
  | some x => exact List.Sublist.refl _

section Decoded

variable {α : Type} {r : Record} {name : String} {value : Decoder α} {x absent : α}
  {found : Option α}

theorem exists_of_required (h : r.required name value = some x) : ∃ d, value d = some x := by
  obtain ⟨d, _, hd⟩ := Option.bind_eq_some_iff.mp h
  exact ⟨d, hd⟩

theorem exists_of_optional (h : r.optional name absent value = some x) :
    x = absent ∨ ∃ d, value d = some x := by
  unfold Record.optional at h
  split at h
  next d _ => exact .inr ⟨d, h⟩
  next =>
    cases h
    exact .inl rfl

theorem exists_of_nullable (h : r.nullable name value = some found) :
    ∀ x ∈ found, ∃ d, value d = some x := by
  rintro x rfl
  obtain hnone | ⟨d, hd⟩ := exists_of_optional h
  · cases hnone
  · unfold Decoder.nullable at hd
    split at hd
    next => cases hd
    next =>
      obtain ⟨y, hy, ⟨⟩⟩ := Option.map_eq_some_iff.mp hd
      exact ⟨d, hy⟩

end Decoded

/-! ## Nesting -/

theorem nesting_lt_array {items : List Json} {j : Json} (h : j ∈ items) :
    (Draft.ofJson j).nesting < (Draft.ofJson (.array items)).nesting := by
  rw [Draft.ofJson, Draft.nesting, Nat.lt_succ_iff]
  induction items with
  | nil => cases h
  | cons first rest ih =>
      rw [Draft.ofItems, Draft.nestingOfItems]
      rcases List.mem_cons.mp h with rfl | hrest
      · exact Nat.le_max_left _ _
      · exact (ih hrest).trans (Nat.le_max_right _ _)

theorem nesting_lt_object {members : List (String × Json)} {m : String × Json}
    (h : m ∈ members) :
    (Draft.ofJson m.2).nesting < (Draft.ofJson (.object members)).nesting := by
  rw [Draft.ofJson, Draft.nesting, Nat.lt_succ_iff]
  induction members with
  | nil => cases h
  | cons first rest ih =>
      obtain ⟨name, j⟩ := first
      rw [Draft.ofMembers, Draft.nestingOfMembers]
      rcases List.mem_cons.mp h with rfl | hrest
      · exact Nat.le_max_left _ _
      · exact (ih hrest).trans (Nat.le_max_right _ _)

/-- A record nests deeper than each of its members. -/
theorem nesting_lt_ofMembers {members : List (String × Json)} {m : String × Json}
    (h : m ∈ members) :
    (Draft.ofJson m.2).nesting < (Draft.ofJson (ofMembers members)).nesting :=
  nesting_lt_object (mem_arrange.mpr h)

/-! ## Plain values -/

section Traversal

variable {α β : Type} {f : α → Option β} {xs : List α} {ys : List β}

theorem mapM_map_eq_some {g : β → α} (h : ∀ y ∈ ys, f (g y) = some y) :
    (ys.map g).mapM f = some ys := by
  induction ys with
  | nil => rfl
  | cons y rest ih =>
      have hrest := ih fun z hz => h z (List.mem_cons_of_mem _ hz)
      rw [List.map_cons, List.mapM_cons, hrest, h y List.mem_cons_self]
      rfl

theorem exists_of_mem_mapM (h : xs.mapM f = some ys) {y : β} (hy : y ∈ ys) :
    ∃ x ∈ xs, f x = some y := by
  induction xs generalizing ys with
  | nil =>
      cases h
      cases hy
  | cons x rest ih =>
      simp only [List.mapM_cons, Option.bind_eq_bind, Option.bind_eq_some_iff] at h
      obtain ⟨first, hfirst, later, hlater, ⟨⟩⟩ := h
      rcases List.mem_cons.mp hy with rfl | hy
      · exact ⟨x, List.mem_cons_self, hfirst⟩
      · obtain ⟨z, hz, hfound⟩ := ih hlater hy
        exact ⟨z, List.mem_cons_of_mem _ hz, hfound⟩

end Traversal

/-- A list comes back when each of its items does. -/
theorem list_map {α : Type} {item : Decoder α} {encode : α → Json} {xs : List α}
    (h : ∀ x ∈ xs, item (Draft.ofJson (encode x)) = some x) :
    Decoder.list item (Draft.ofJson (.array (xs.map encode))) = some xs := by
  rw [Draft.ofJson, Draft.ofItems_eq_map, List.map_map]
  exact mapM_map_eq_some h

/-- The items of a list that decodes are decoded from items. -/
theorem exists_of_mem_list {α : Type} {item : Decoder α} {d : Draft} {xs : List α}
    (h : Decoder.list item d = some xs) {x : α} (hx : x ∈ xs) : ∃ d, item d = some x := by
  unfold Decoder.list at h
  split at h
  next =>
    obtain ⟨found, _, hfound⟩ := exists_of_mem_mapM h hx
    exact ⟨found, hfound⟩
  next => cases h

theorem bool_ofJson (b : Bool) : Decoder.bool (Draft.ofJson (.bool b)) = some b := rfl

theorem string_ofJson (s : String) : Decoder.string (Draft.ofJson (.string s)) = some s := rfl

theorem list_ofStrings (texts : List String) :
    Decoder.list Decoder.string (Draft.ofJson (ofStrings texts)) = some texts :=
  list_map fun s _ => string_ofJson s

/-! ## Maps -/

section Maps

variable {α : Type} {value : Decoder α}

/-- A map comes back when each of its values does. -/
theorem map_map {encode : α → Json} {members : List (String × α)} (hnames : Ascending members)
    (h : ∀ m ∈ members, value (Draft.ofJson (encode m.2)) = some m.2) :
    Decoder.map value (Draft.ofJson (.object (members.map fun m => (m.1, encode m.2)))) =
      some members := by
  rw [Draft.ofJson, Draft.ofMembers_eq_map, List.map_map]
  unfold Decoder.map
  dsimp only
  rw [mapM_map_eq_some]
  · exact congrArg some hnames.lastOfEach_eq
  · intro m hm
    rw [Function.comp_apply, h m hm]
    rfl

/-- The names of a map that decodes ascend and its values are decoded from values. -/
theorem ascending_of_map {d : Draft} {found : List (String × α)}
    (h : Decoder.map value d = some found) :
    Ascending found ∧ ∀ m ∈ found, ∃ d, value d = some m.2 := by
  unfold Decoder.map at h
  split at h
  next members =>
    simp only [Option.bind_eq_bind, Option.bind_eq_some_iff] at h
    obtain ⟨decoded, hdecoded, ⟨⟩⟩ := h
    refine ⟨ascending_lastOfEach decoded, fun m hm => ?_⟩
    obtain ⟨member, _, hmember⟩ := exists_of_mem_mapM hdecoded (mem_of_mem_lastOfEach hm)
    simp only [Option.bind_eq_some_iff] at hmember
    obtain ⟨v, hv, ⟨⟩⟩ := hmember
    exact ⟨member.2, hv⟩
  next => cases h

end Maps

/-! ## Numbers -/

/-- A count that fits 64 bits comes back. -/
theorem nat_ofNat {n : ℕ} (h : n < UInt64.size) :
    Decoder.nat (Draft.ofJson (ofNat n)) = some n := by
  have hfits : n < 0x10000000000000000 := h
  rw [ofNat, Number.ofNat, dif_pos hfits]
  rfl

/-- What decodes as a count fits 64 bits. -/
theorem lt_of_nat {d : Draft} {n : ℕ} (h : Decoder.nat d = some n) : n < UInt64.size := by
  unfold Decoder.nat at h
  split at h
  next number =>
    cases number with
    | integer value fits =>
        cases value with
        | ofNat m =>
            cases h
            exact Int.ofNat_lt.mp fits.2
        | negSucc m => cases h
    | double _ _ => cases h
  next => cases h

end SlideDeck.Json
