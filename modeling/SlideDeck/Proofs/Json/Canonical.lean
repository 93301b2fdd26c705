import Mathlib.Data.List.Perm.Basic
import Mathlib.Data.String.Basic
import SlideDeck.Proofs.Json.Reading

/-!
# Canonical text

Two values have one canonical text when they differ in the order of members at most. Sorting
moves members past members of other names only, and forgets in which order they came; what is
left, the text tells apart.
-/

namespace SlideDeck.Json

mutual

/-- Equality up to the order of members, at every depth. Members of one name keep theirs. -/
inductive Reordered : Json → Json → Prop
  | null : Reordered .null .null
  | bool (value : Bool) : Reordered (.bool value) (.bool value)
  | number (value : Number) : Reordered (.number value) (.number value)
  | string (value : String) : Reordered (.string value) (.string value)
  | array {xs ys : List Json} : ItemsReordered xs ys → Reordered (.array xs) (.array ys)
  | object {xs ys : List (String × Json)} :
      MembersReordered xs ys → Reordered (.object xs) (.object ys)

/-- Items are compared one by one. -/
inductive ItemsReordered : List Json → List Json → Prop
  | nil : ItemsReordered [] []
  | cons {x y : Json} {xs ys : List Json} :
      Reordered x y → ItemsReordered xs ys → ItemsReordered (x :: xs) (y :: ys)

/-- Members are compared by name, and neighbours of different names may change places. -/
inductive MembersReordered : List (String × Json) → List (String × Json) → Prop
  | nil : MembersReordered [] []
  | cons {x y : Json} {xs ys : List (String × Json)} (name : String) :
      Reordered x y → MembersReordered xs ys →
        MembersReordered ((name, x) :: xs) ((name, y) :: ys)
  | swap {k l : String} (x y : Json) (rest : List (String × Json)) :
      k ≠ l → MembersReordered ((k, x) :: (l, y) :: rest) ((l, y) :: (k, x) :: rest)
  | trans {xs ys zs : List (String × Json)} :
      MembersReordered xs ys → MembersReordered ys zs → MembersReordered xs zs

end

/-! ## An equivalence -/

mutual

theorem Reordered.refl : (a : Json) → Reordered a a
  | .null => .null
  | .bool value => .bool value
  | .number value => .number value
  | .string value => .string value
  | .array items => .array (ItemsReordered.refl items)
  | .object members => .object (MembersReordered.refl members)

theorem ItemsReordered.refl : (xs : List Json) → ItemsReordered xs xs
  | [] => .nil
  | x :: xs => .cons (Reordered.refl x) (ItemsReordered.refl xs)

theorem MembersReordered.refl : (xs : List (String × Json)) → MembersReordered xs xs
  | [] => .nil
  | (name, x) :: xs => .cons name (Reordered.refl x) (MembersReordered.refl xs)

end

mutual

theorem Reordered.symm : {a b : Json} → Reordered a b → Reordered b a
  | _, _, .null => .null
  | _, _, .bool value => .bool value
  | _, _, .number value => .number value
  | _, _, .string value => .string value
  | _, _, .array h => .array h.symm
  | _, _, .object h => .object h.symm

theorem ItemsReordered.symm : {xs ys : List Json} → ItemsReordered xs ys → ItemsReordered ys xs
  | _, _, .nil => .nil
  | _, _, .cons h hrest => .cons h.symm hrest.symm

theorem MembersReordered.symm :
    {xs ys : List (String × Json)} → MembersReordered xs ys → MembersReordered ys xs
  | _, _, .nil => .nil
  | _, _, .cons name h hrest => .cons name h.symm hrest.symm
  | _, _, .swap x y rest hne => .swap y x rest hne.symm
  | _, _, .trans h h' => .trans h'.symm h.symm

end

mutual

theorem Reordered.trans : {a b c : Json} → Reordered a b → Reordered b c → Reordered a c
  | _, _, _, .null, h => h
  | _, _, _, .bool _, h => h
  | _, _, _, .number _, h => h
  | _, _, _, .string _, h => h
  | _, _, _, .array h, .array h' => .array (h.trans h')
  | _, _, _, .object h, .object h' => .object (.trans h h')

theorem ItemsReordered.trans :
    {xs ys zs : List Json} → ItemsReordered xs ys → ItemsReordered ys zs → ItemsReordered xs zs
  | _, _, _, .nil, h => h
  | _, _, _, .cons h hrest, .cons h' hrest' => .cons (h.trans h') (hrest.trans hrest')

end

/-! ## Objects -/

/-- Two members of one name whose values are equal up to the order of members. -/
def MemberReordered (m n : String × Json) : Prop := m.1 = n.1 ∧ Reordered m.2 n.2

theorem MembersReordered.of_forall₂ {xs ys : List (String × Json)}
    (h : List.Forall₂ MemberReordered xs ys) : MembersReordered xs ys := by
  induction h with
  | nil => exact .nil
  | @cons m n _ _ hmember _ ih =>
      obtain ⟨name, x⟩ := m
      obtain ⟨_, y⟩ := n
      obtain ⟨rfl, hvalue⟩ := hmember
      exact .cons name hvalue ih

/-- Members of different names may stand in any order. -/
theorem MembersReordered.of_perm {xs ys : List (String × Json)} (hperm : xs.Perm ys)
    (hnames : (xs.map Prod.fst).Nodup) : MembersReordered xs ys := by
  induction hperm with
  | nil => exact .nil
  | cons member _ ih => exact .cons member.1 (.refl member.2) (ih hnames.of_cons)
  | swap m n rest =>
      refine .swap n.2 m.2 rest ?_
      simp only [List.map_cons, List.nodup_cons, List.mem_cons, not_or] at hnames
      exact hnames.1.1
  | trans hfirst _ ih ih' =>
      exact .trans (ih hnames) (ih' ((hfirst.map Prod.fst).nodup_iff.mp hnames))

theorem forall₂_memberReordered_trans : {xs ys zs : List (String × Json)} →
    List.Forall₂ MemberReordered xs ys → List.Forall₂ MemberReordered ys zs →
      List.Forall₂ MemberReordered xs zs
  | _, _, _, .nil, h => h
  | _, _, _, .cons h hrest, .cons h' hrest' =>
      .cons ⟨h.1.trans h'.1, h.2.trans h'.2⟩ (forall₂_memberReordered_trans hrest hrest')

theorem MembersReordered.exists_perm {xs ys : List (String × Json)} :
    MembersReordered xs ys → ∃ zs, xs.Perm zs ∧ List.Forall₂ MemberReordered zs ys
  | .nil => ⟨[], .nil, .nil⟩
  | @MembersReordered.cons x y _ _ name h hrest =>
      let ⟨zs, hperm, hvalues⟩ := hrest.exists_perm
      ⟨(name, x) :: zs, hperm.cons _, .cons ⟨rfl, h⟩ hvalues⟩
  | @MembersReordered.swap k l x y rest _ =>
      ⟨(l, y) :: (k, x) :: rest, .swap _ _ _, List.forall₂_same.mpr fun _ _ => ⟨rfl, .refl _⟩⟩
  | .trans h h' => by
      obtain ⟨first, hperm, hvalues⟩ := h.exists_perm
      obtain ⟨second, hperm', hvalues'⟩ := h'.exists_perm
      have hcomp : Relation.Comp (List.Forall₂ MemberReordered) List.Perm first second :=
        ⟨_, hvalues, hperm'⟩
      -- the second arrangement may be made before the values are compared
      rw [List.forall₂_comp_perm_eq_perm_comp_forall₂] at hcomp
      obtain ⟨zs, hearlier, hlater⟩ := hcomp
      exact ⟨zs, hperm.trans hearlier, forall₂_memberReordered_trans hlater hvalues'⟩

/-- Objects are equal up to the order of members when the members of one, arranged like those of
the other, have the same names and values that are equal up to the order of members. -/
theorem reordered_object_iff {xs ys : List (String × Json)} (hnames : (xs.map Prod.fst).Nodup) :
    Reordered (.object xs) (.object ys) ↔
      ∃ zs, xs.Perm zs ∧ List.Forall₂ MemberReordered zs ys := by
  constructor
  · intro h
    cases h with
    | object hmembers => exact hmembers.exists_perm
  · rintro ⟨zs, hperm, hvalues⟩
    exact .object (.trans (.of_perm hperm hnames) (.of_forall₂ hvalues))

/-! ## Sorting -/

theorem membersReordered_insertMember (name : String) (value : Json)
    (members : List (String × Json)) :
    MembersReordered ((name, value) :: members) (insertMember name value members) := by
  induction members with
  | nil => exact .refl _
  | cons member rest ih =>
      obtain ⟨other, old⟩ := member
      unfold insertMember
      split
      next hless =>
        have hne : name ≠ other := by
          rintro rfl
          exact String.lt_irrefl name hless
        exact .trans (.swap value old rest hne) (.cons other (.refl old) ih)
      next => exact .refl _

mutual

/-- Sorting changes the order of members only. -/
theorem reordered_sorted : (a : Json) → Reordered a a.sorted
  | .null | .bool _ | .number _ | .string _ => .refl _
  | .array items => .array (itemsReordered_sorted items)
  | .object members => .object (membersReordered_sorted members)

theorem itemsReordered_sorted : (items : List Json) → ItemsReordered items (sortedItems items)
  | [] => .nil
  | j :: rest => .cons (reordered_sorted j) (itemsReordered_sorted rest)

theorem membersReordered_sorted :
    (members : List (String × Json)) → MembersReordered members (sortedMembers members)
  | [] => .nil
  | (name, value) :: rest =>
      .trans (.cons name (reordered_sorted value) (membersReordered_sorted rest))
        (membersReordered_insertMember name _ _)

end

/-- The greater of two members finds its place before the smaller one is put in or after it. -/
theorem insertMember_comm_of_lt {k l : String} (hlt : k < l) (x y : Json)
    (members : List (String × Json)) :
    insertMember k x (insertMember l y members) = insertMember l y (insertMember k x members) := by
  have hnot : ¬ l < k := String.lt_asymm hlt
  induction members with
  | nil => simp [insertMember, hlt, hnot]
  | cons member rest ih =>
      obtain ⟨other, old⟩ := member
      by_cases hk : other < k
      · have hl : other < l := String.lt_trans hk hlt
        simp [insertMember, hk, hl, ih]
      -- here the smaller member stops, and the greater one passes it
      · by_cases hl : other < l <;> simp [insertMember, hk, hl, hlt, hnot]

theorem insertMember_comm {k l : String} (hne : k ≠ l) (x y : Json)
    (members : List (String × Json)) :
    insertMember k x (insertMember l y members) = insertMember l y (insertMember k x members) := by
  obtain hlt | hlt := lt_or_gt_of_ne hne
  · exact insertMember_comm_of_lt hlt x y members
  · exact (insertMember_comm_of_lt hlt y x members).symm

mutual

/-- Sorting forgets the order of members. -/
theorem Reordered.sorted_eq : {a b : Json} → Reordered a b → a.sorted = b.sorted
  | _, _, .null | _, _, .bool _ | _, _, .number _ | _, _, .string _ => rfl
  | _, _, .array h => congrArg array h.sorted_eq
  | _, _, .object h => congrArg object h.sorted_eq

theorem ItemsReordered.sorted_eq :
    {xs ys : List Json} → ItemsReordered xs ys → sortedItems xs = sortedItems ys
  | _, _, .nil => rfl
  | _, _, .cons h hrest => congrArg₂ List.cons h.sorted_eq hrest.sorted_eq

theorem MembersReordered.sorted_eq :
    {xs ys : List (String × Json)} → MembersReordered xs ys → sortedMembers xs = sortedMembers ys
  | _, _, .nil => rfl
  | _, _, .cons name h hrest => congrArg₂ (insertMember name) h.sorted_eq hrest.sorted_eq
  | _, _, .swap x y rest hne => insertMember_comm hne x.sorted y.sorted (sortedMembers rest)
  | _, _, .trans h h' => h.sorted_eq.trans h'.sorted_eq

end

theorem sorted_eq_iff {a b : Json} : a.sorted = b.sorted ↔ Reordered a b :=
  ⟨fun h => (reordered_sorted a).trans (h ▸ (reordered_sorted b).symm), Reordered.sorted_eq⟩

/-! ## Canonical text -/

/-- The canonical text tells how the sorted value was. -/
theorem sorted_eq_of_canonical_eq {a b : Json} (h : a.canonical = b.canonical) :
    a.sorted = b.sorted :=
  render_injective (String.ofList_inj.mp h)

/-- A value shares its canonical text with the values that it can be reordered to, and with no
others. -/
theorem canonical_eq_iff (a b : Json) : a.canonical = b.canonical ↔ a.Reordered b := by
  rw [← sorted_eq_iff]
  exact ⟨sorted_eq_of_canonical_eq, congrArg compact⟩

end SlideDeck.Json
