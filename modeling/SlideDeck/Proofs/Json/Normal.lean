import Mathlib.Data.List.Perm.Basic
import SlideDeck.Json.Decode
import SlideDeck.Proofs.Json.Canonical

/-!
# Normal form

A value is in normal form when the names of every object ascend, each of them once. Sorting leaves
such a value as it is, and it is what its own draft is read as. Whatever a draft is read as is in
normal form, and so is an object that is put together from members of different names.
-/

namespace SlideDeck.Json

/-! ## Lists of members -/

section Members

variable {α β : Type} {name : String} {value : α} {members : List (String × α)}

/-- The names ascend, each of them once. -/
def Ascending (members : List (String × α)) : Prop := members.Pairwise fun m n => m.1 < n.1

/-- The members in ascending order of their names. -/
def arrange (members : List (String × α)) : List (String × α) :=
  members.foldr (fun member rest => insertMember member.1 member.2 rest) []

/-- The last member of each name, in ascending order of the names. -/
def lastOfEach (members : List (String × α)) : List (String × α) :=
  members.foldr
    (fun member later =>
      if (later.lookup member.1).isSome then later else insertMember member.1 member.2 later) []

theorem arrange_cons (member : String × α) (rest : List (String × α)) :
    arrange (member :: rest) = insertMember member.1 member.2 (arrange rest) := rfl

theorem lastOfEach_cons (member : String × α) (rest : List (String × α)) :
    lastOfEach (member :: rest) =
      if ((lastOfEach rest).lookup member.1).isSome then lastOfEach rest
      else insertMember member.1 member.2 (lastOfEach rest) := rfl

theorem ascending_cons_iff {member : String × α} :
    Ascending (member :: members) ↔ (∀ m ∈ members, member.1 < m.1) ∧ Ascending members :=
  List.pairwise_cons

theorem insertMember_perm (name : String) (value : α) (members : List (String × α)) :
    (insertMember name value members).Perm ((name, value) :: members) := by
  induction members with
  | nil => exact .refl _
  | cons member rest ih =>
      unfold insertMember
      split
      · exact (ih.cons member).trans (.swap _ _ _)
      · exact .refl _

theorem insertMember_of_forall_lt (h : ∀ m ∈ members, name < m.1) :
    insertMember name value members = (name, value) :: members := by
  cases members with
  | nil => rfl
  | cons member rest =>
      have hnot : ¬ member.1 < name := String.lt_asymm (h member List.mem_cons_self)
      exact if_neg hnot

/-- A member is put in front of those of its own name. -/
theorem lookup_insertMember (name other : String) (value : α) (members : List (String × α)) :
    (insertMember name value members).lookup other = ((name, value) :: members).lookup other := by
  induction members with
  | nil => rfl
  | cons member rest ih =>
      obtain ⟨first, old⟩ := member
      unfold insertMember
      split
      next hless =>
        have hne : first ≠ name := ne_of_lt hless
        simp only [List.lookup_cons] at ih ⊢
        rw [ih]
        -- the two names differ, so one of them at most is looked for
        by_cases hother : other = first
        · subst hother
          simp [beq_false_of_ne hne]
        · simp [beq_false_of_ne hother]
      next => rfl

theorem lookup_eq_none_of_forall_lt (h : ∀ m ∈ members, name < m.1) :
    members.lookup name = none := by
  rw [List.lookup_eq_none_iff]
  intro m hm
  simpa using ne_of_lt (h m hm)

theorem forall_ne_of_lookup_eq_none (h : members.lookup name = none) :
    ∀ m ∈ members, m.1 ≠ name := by
  intro m hm heq
  have hdiffers := List.lookup_eq_none_iff.mp h m hm
  simp [heq] at hdiffers

theorem Ascending.insertMember (h : Ascending members) (hname : ∀ m ∈ members, m.1 ≠ name)
    (value : α) : Ascending (insertMember name value members) := by
  induction members with
  | nil => exact List.pairwise_singleton _ _
  | cons member rest ih =>
      obtain ⟨hfirst, hrest⟩ := ascending_cons_iff.mp h
      unfold Json.insertMember
      split
      next hless =>
        refine ascending_cons_iff.mpr
          ⟨?_, ih hrest fun m hm => hname m (List.mem_cons_of_mem _ hm)⟩
        intro m hm
        rcases List.mem_cons.mp ((insertMember_perm _ _ _).mem_iff.mp hm) with rfl | hm
        · exact hless
        · exact hfirst m hm
      next hnot =>
        have hless : name < member.1 :=
          lt_of_le_of_ne (not_lt.mp hnot) (hname member List.mem_cons_self).symm
        refine ascending_cons_iff.mpr ⟨?_, h⟩
        intro m hm
        rcases List.mem_cons.mp hm with rfl | hm
        · exact hless
        · exact hless.trans (hfirst m hm)

theorem arrange_perm (members : List (String × α)) : (arrange members).Perm members := by
  induction members with
  | nil => exact .refl _
  | cons member rest ih => exact (insertMember_perm _ _ _).trans (ih.cons member)

theorem mem_arrange {m : String × α} : m ∈ arrange members ↔ m ∈ members :=
  (arrange_perm members).mem_iff

theorem lookup_arrange (members : List (String × α)) (name : String) :
    (arrange members).lookup name = members.lookup name := by
  induction members with
  | nil => rfl
  | cons member rest ih =>
      rw [arrange_cons, lookup_insertMember, List.lookup_cons, List.lookup_cons, ih]

theorem ascending_arrange (h : (members.map Prod.fst).Nodup) : Ascending (arrange members) := by
  induction members with
  | nil => exact .nil
  | cons member rest ih =>
      obtain ⟨hfirst, hrest⟩ := List.nodup_cons.mp h
      refine (ih hrest).insertMember ?_ member.2
      intro m hm heq
      exact hfirst (heq ▸ List.mem_map_of_mem (mem_arrange.mp hm))

theorem ascending_lastOfEach (members : List (String × α)) : Ascending (lastOfEach members) := by
  induction members with
  | nil => exact .nil
  | cons member rest ih =>
      rw [lastOfEach_cons]
      split
      next => exact ih
      next hnew =>
        have hfresh := forall_ne_of_lookup_eq_none (Option.not_isSome_iff_eq_none.mp hnew)
        exact ih.insertMember hfresh _

theorem mem_of_mem_lastOfEach {m : String × α} (h : m ∈ lastOfEach members) : m ∈ members := by
  induction members with
  | nil => cases h
  | cons member rest ih =>
      rw [lastOfEach_cons] at h
      split at h
      next => exact List.mem_cons_of_mem _ (ih h)
      next =>
        rcases List.mem_cons.mp ((insertMember_perm _ _ _).mem_iff.mp h) with rfl | hrest
        · exact List.mem_cons_self
        · exact List.mem_cons_of_mem _ (ih hrest)

/-- Ascending members are the last ones of their names. -/
theorem Ascending.lastOfEach_eq (h : Ascending members) : lastOfEach members = members := by
  induction members with
  | nil => rfl
  | cons member rest ih =>
      obtain ⟨hfirst, hrest⟩ := ascending_cons_iff.mp h
      rw [lastOfEach_cons, ih hrest, lookup_eq_none_of_forall_lt hfirst]
      exact insertMember_of_forall_lt hfirst

end Members

/-! ## Values -/

mutual

/-- The names of every object ascend, each of them once. -/
def IsNormal : Json → Prop
  | .null | .bool _ | .number _ | .string _ => True
  | .array items => ItemsNormal items
  | .object members => Ascending members ∧ MembersNormal members

def ItemsNormal : List Json → Prop
  | [] => True
  | j :: rest => IsNormal j ∧ ItemsNormal rest

def MembersNormal : List (String × Json) → Prop
  | [] => True
  | (_, j) :: rest => IsNormal j ∧ MembersNormal rest

end

variable {j : Json} {items : List Json} {members : List (String × Json)}

theorem itemsNormal_iff : ItemsNormal items ↔ ∀ j ∈ items, j.IsNormal := by
  induction items with
  | nil => simp [ItemsNormal]
  | cons j rest ih => simp [ItemsNormal, ih]

theorem membersNormal_iff : MembersNormal members ↔ ∀ m ∈ members, m.2.IsNormal := by
  induction members with
  | nil => simp [MembersNormal]
  | cons member rest ih => simp [MembersNormal, ih]

@[simp] theorem isNormal_bool (b : Bool) : (bool b).IsNormal := trivial

@[simp] theorem isNormal_string (s : String) : (string s).IsNormal := trivial

@[simp] theorem isNormal_ofNat (n : ℕ) : (ofNat n).IsNormal := trivial

@[simp] theorem isNormal_ofFloat (x : Float) : (ofFloat x).IsNormal := by
  rw [ofFloat]
  cases Number.ofFloat? x <;> exact trivial

theorem isNormal_ofOption {α : Type} {encode : α → Json} (value : Option α)
    (h : ∀ x, (encode x).IsNormal) : (ofOption value encode).IsNormal := by
  cases value with
  | none => exact trivial
  | some x => exact h x

theorem isNormal_array_map {α : Type} {encode : α → Json} {xs : List α}
    (h : ∀ x ∈ xs, (encode x).IsNormal) : (array (xs.map encode)).IsNormal := by
  refine itemsNormal_iff.mpr fun j hj => ?_
  obtain ⟨x, hx, rfl⟩ := List.mem_map.mp hj
  exact h x hx

/-- A record of members in normal form is in normal form. -/
theorem isNormal_ofMembers (hnames : (members.map Prod.fst).Nodup)
    (h : ∀ m ∈ members, m.2.IsNormal) : (ofMembers members).IsNormal :=
  ⟨ascending_arrange hnames, membersNormal_iff.mpr fun m hm => h m (mem_arrange.mp hm)⟩

mutual

/-- Sorting leaves a value in normal form as it is. -/
theorem IsNormal.sorted_eq : {j : Json} → j.IsNormal → j.sorted = j
  | .null, _ | .bool _, _ | .number _, _ | .string _, _ => rfl
  | .array _, h => congrArg array (ItemsNormal.sorted_eq h)
  | .object _, h => congrArg object (MembersNormal.sorted_eq h.1 h.2)

theorem ItemsNormal.sorted_eq : {items : List Json} → ItemsNormal items → sortedItems items = items
  | [], _ => rfl
  | _ :: _, h => congrArg₂ List.cons h.1.sorted_eq (ItemsNormal.sorted_eq h.2)

theorem MembersNormal.sorted_eq : {members : List (String × Json)} → Ascending members →
    MembersNormal members → sortedMembers members = members
  | [], _, _ => rfl
  | (name, j) :: rest, hnames, h => by
      obtain ⟨hfirst, hrest⟩ := ascending_cons_iff.mp hnames
      rw [sortedMembers, h.1.sorted_eq, MembersNormal.sorted_eq hrest h.2]
      exact insertMember_of_forall_lt hfirst

end

/-- Values in normal form that are equal up to the order of members are equal. -/
theorem Reordered.eq_of_isNormal {a b : Json} (h : a.Reordered b) (ha : a.IsNormal)
    (hb : b.IsNormal) : a = b := by
  rw [← ha.sorted_eq, ← hb.sorted_eq, h.sorted_eq]

/-! ## Drafts -/

namespace Draft

theorem ofItems_eq_map (items : List Json) : ofItems items = items.map ofJson := by
  induction items with
  | nil => rfl
  | cons j rest ih => rw [ofItems, ih, List.map_cons]

theorem ofMembers_eq_map (members : List (String × Json)) :
    Draft.ofMembers members = members.map fun m => (m.1, ofJson m.2) := by
  induction members with
  | nil => rfl
  | cons member rest ih => rw [Draft.ofMembers, ih, List.map_cons]

theorem memberValues?_cons_eq_some {name : String} {d : Draft} {rest : List (String × Draft)}
    {found : List (String × Json)} (h : memberValues? ((name, d) :: rest) = some found) :
    ∃ value later, d.value? = some value ∧ memberValues? rest = some later ∧
      found = if (later.lookup name).isSome then later else insertMember name value later := by
  simp only [memberValues?, Option.bind_eq_bind, Option.bind_eq_some_iff] at h
  obtain ⟨value, hvalue, later, hlater, ⟨⟩⟩ := h
  exact ⟨value, later, hvalue, hlater, rfl⟩

mutual

/-- A value in normal form is what its draft is read as. -/
theorem value?_ofJson : (j : Json) → j.IsNormal → (ofJson j).value? = some j
  | .null, _ | .bool _, _ | .number _, _ | .string _, _ => rfl
  | .array items, h => by rw [ofJson, value?, values?_ofItems items h, Option.map_some]
  | .object members, h => by
      rw [ofJson, value?, memberValues?_ofMembers members h.1 h.2, Option.map_some]

theorem values?_ofItems : (items : List Json) → ItemsNormal items →
    values? (ofItems items) = some items
  | [], _ => rfl
  | j :: rest, h => by
      rw [ofItems, values?, value?_ofJson j h.1, values?_ofItems rest h.2]
      rfl

theorem memberValues?_ofMembers : (members : List (String × Json)) → Ascending members →
    MembersNormal members → memberValues? (Draft.ofMembers members) = some members
  | [], _, _ => rfl
  | (name, j) :: rest, hnames, h => by
      obtain ⟨hfirst, hrest⟩ := ascending_cons_iff.mp hnames
      rw [Draft.ofMembers, memberValues?, value?_ofJson j h.1,
        memberValues?_ofMembers rest hrest h.2]
      change some (if (rest.lookup name).isSome then _ else _) = _
      rw [lookup_eq_none_of_forall_lt hfirst]
      exact congrArg some (insertMember_of_forall_lt hfirst)

end

mutual

/-- Whatever a draft is read as is in normal form. -/
theorem isNormal_of_value? : (d : Draft) → {j : Json} → d.value? = some j → j.IsNormal
  | .unreadable, _, h => by cases h
  | .null, _, h | .bool _, _, h | .number _, _, h | .string _, _, h => by
      cases h
      exact trivial
  | .array items, _, h => by
      obtain ⟨found, hfound, rfl⟩ := Option.map_eq_some_iff.mp h
      exact itemsNormal_of_values? items hfound
  | .object members, _, h => by
      obtain ⟨found, hfound, rfl⟩ := Option.map_eq_some_iff.mp h
      exact membersNormal_of_memberValues? members hfound

theorem itemsNormal_of_values? : (items : List Draft) → {found : List Json} →
    values? items = some found → ItemsNormal found
  | [], _, h => by
      cases h
      exact trivial
  | d :: rest, _, h => by
      simp only [values?, Option.bind_eq_bind, Option.bind_eq_some_iff] at h
      obtain ⟨value, hvalue, later, hlater, ⟨⟩⟩ := h
      exact ⟨isNormal_of_value? d hvalue, itemsNormal_of_values? rest hlater⟩

theorem membersNormal_of_memberValues? : (members : List (String × Draft)) →
    {found : List (String × Json)} → memberValues? members = some found →
      Ascending found ∧ MembersNormal found
  | [], _, h => by
      cases h
      exact ⟨.nil, trivial⟩
  | (name, d) :: rest, found, h => by
      obtain ⟨value, later, hvalue, hlater, rfl⟩ := memberValues?_cons_eq_some h
      obtain ⟨hascending, hnormal⟩ := membersNormal_of_memberValues? rest hlater
      split
      next => exact ⟨hascending, hnormal⟩
      next hnew =>
        have hnone := Option.not_isSome_iff_eq_none.mp hnew
        refine ⟨hascending.insertMember (forall_ne_of_lookup_eq_none hnone) value,
          membersNormal_iff.mpr fun m hm => ?_⟩
        rcases List.mem_cons.mp ((insertMember_perm _ _ _).mem_iff.mp hm) with rfl | hm
        · exact isNormal_of_value? d hvalue
        · exact membersNormal_iff.mp hnormal m hm

end

end Draft

end SlideDeck.Json
