import Mathlib.Data.List.Nodup

/-!
# Lists in an order, and lists of distinct keys

Sorting keeps the order of elements that tie, and forgets the order of a list in which no two
do. Where elements are sorted by a key, and no two share it, the sorted list ascends strictly,
and whatever is looked for under a key is found wherever it stands.
-/

namespace SlideDeck

/-- Sorting forgets the order of a list in which no two elements tie. -/
theorem mergeSort_eq_of_perm {α : Type} {cmp : α → α → Ordering} [Std.TransCmp cmp]
    {first second : List α} (hperm : first.Perm second)
    (hties : ∀ a ∈ first, ∀ b ∈ first, cmp a b = .eq → a = b) :
    first.mergeSort (fun a b => (cmp a b).isLE) =
      second.mergeSort (fun a b => (cmp a b).isLE) := by
  have htrans : ∀ a b c, (cmp a b).isLE = true → (cmp b c).isLE = true →
      (cmp a c).isLE = true := fun _ _ _ => Std.TransCmp.isLE_trans
  have htotal : ∀ a b, ((cmp a b).isLE || (cmp b a).isLE) = true := by
    intro a b
    have hswap : cmp b a = (cmp a b).swap := Std.OrientedCmp.eq_swap
    rw [hswap]
    cases cmp a b <;> rfl
  apply List.Perm.eq_of_pairwise
  · intro a b ha hb hab hba
    have hb' := hperm.mem_iff.mpr (List.mem_mergeSort.mp hb)
    exact hties a (List.mem_mergeSort.mp ha) b hb' (Std.OrientedCmp.isLE_antisymm hab hba)
  · exact List.pairwise_mergeSort htrans htotal first
  · exact List.pairwise_mergeSort htrans htotal second
  · exact (List.mergeSort_perm first _).trans (hperm.trans (List.mergeSort_perm second _).symm)

/-! ## Sorting by a number -/

section Numbers

variable {α : Type} {key : α → Nat} {xs ys : List α}

theorem key_le_trans (key : α → Nat) (x y z : α) : decide (key x ≤ key y) = true →
    decide (key y ≤ key z) = true → decide (key x ≤ key z) = true := by
  simp only [decide_eq_true_eq]
  exact Nat.le_trans

theorem key_le_total (key : α → Nat) (x y : α) :
    (decide (key x ≤ key y) || decide (key y ≤ key x)) = true := by
  simp only [Bool.or_eq_true, decide_eq_true_eq]
  exact Nat.le_total _ _

theorem pairwise_mergeSort_key (key : α → Nat) (xs : List α) :
    (xs.mergeSort fun x y => key x ≤ key y).Pairwise fun x y => key x ≤ key y :=
  (List.pairwise_mergeSort (key_le_trans key) (key_le_total key) xs).imp of_decide_eq_true

/-- Elements with one number stay in the order in which they are. -/
theorem filter_mergeSort_key (key : α → Nat) (xs : List α) (n : Nat) :
    ((xs.mergeSort fun x y => key x ≤ key y).filter fun x => key x == n) =
      xs.filter fun x => key x == n := by
  have hties : (xs.filter fun x => key x == n).Pairwise
      fun x y => decide (key x ≤ key y) = true := by
    apply List.pairwise_of_forall_mem_list
    intro x hx y hy
    have hkeyx := beq_iff_eq.mp (List.mem_filter.mp hx).2
    have hkeyy := beq_iff_eq.mp (List.mem_filter.mp hy).2
    rw [hkeyx, hkeyy]
    exact decide_eq_true (Nat.le_refl n)
  have hsublist := (List.sublist_mergeSort (key_le_trans key) (key_le_total key) hties
    List.filter_sublist).filter fun x => key x == n
  rw [List.filter_filter, List.filter_congr fun x _ => Bool.and_self _] at hsublist
  exact (hsublist.eq_of_length ((List.mergeSort_perm xs _).filter _).length_eq.symm).symm

/-- Elements in ascending order of a number, where those with one number keep their order. -/
structure IsStableSort (key : α → Nat) (xs sorted : List α) : Prop where
  perm : sorted.Perm xs
  ascending : sorted.Pairwise fun x y => key x ≤ key y
  stable : ∀ n, (sorted.filter fun x => key x == n) = xs.filter fun x => key x == n

theorem isStableSort_mergeSort (key : α → Nat) (xs : List α) :
    IsStableSort key xs (xs.mergeSort fun x y => key x ≤ key y) where
  perm := List.mergeSort_perm xs _
  ascending := pairwise_mergeSort_key key xs
  stable := filter_mergeSort_key key xs

/-- Elements with distinct numbers ascend strictly when they are sorted by them. -/
theorem pairwise_lt_mergeSort_key (hdistinct : (xs.map key).Nodup) :
    (xs.mergeSort fun x y => key x ≤ key y).Pairwise fun x y => key x < key y := by
  have hsorted : ((xs.mergeSort fun x y => key x ≤ key y).map key).Nodup :=
    ((List.mergeSort_perm xs _).map key).nodup_iff.mpr hdistinct
  exact (pairwise_mergeSort_key key xs).imp₂ (fun _ _ => Nat.lt_of_le_of_ne)
    (List.pairwise_map.mp hsorted)

theorem mergeSort_key_eq_of_perm (hdistinct : (xs.map key).Nodup) (hperm : xs.Perm ys) :
    (xs.mergeSort fun x y => key x ≤ key y) = ys.mergeSort fun x y => key x ≤ key y := by
  have hle : (fun x y : α => decide (key x ≤ key y)) =
      fun x y => (compareOn key x y).isLE := by
    funext x y
    rw [Bool.eq_iff_iff, decide_eq_true_eq, compareOn, Nat.isLE_compare]
  rw [hle]
  apply mergeSort_eq_of_perm hperm
  intro x hx y hy htie
  exact List.inj_on_of_nodup_map hdistinct hx hy (Std.LawfulEqOrd.eq_of_compare htie)

end Numbers

/-! ## Finding by a key -/

/-- What is found under a key is the element with this key. -/
theorem find?_key_eq_some_iff {α κ : Type} [BEq κ] [LawfulBEq κ] {key : α → κ} {xs : List α}
    (hdistinct : (xs.map key).Nodup) {k : κ} {x : α} :
    xs.find? (fun x => key x == k) = some x ↔ x ∈ xs ∧ key x = k := by
  constructor
  · intro hfind
    have hkey := List.find?_some hfind
    exact ⟨List.mem_of_find?_eq_some hfind, beq_iff_eq.mp hkey⟩
  · rintro ⟨hmem, rfl⟩
    cases hfind : xs.find? fun other => key other == key x with
    | none =>
        have hnone := List.find?_eq_none.mp hfind x hmem
        exact absurd BEq.rfl hnone
    | some other =>
        have hkey := List.find?_some hfind
        rw [List.inj_on_of_nodup_map hdistinct (List.mem_of_find?_eq_some hfind) hmem
          (beq_iff_eq.mp hkey)]

/-- Dropping entries by their keys hides just these. -/
theorem lookup_filter_keys {α κ : Type} [BEq κ] [LawfulBEq κ] (keep : κ → Bool)
    (entries : List (κ × α)) (key : κ) :
    (entries.filter fun e => keep e.1).lookup key =
      if keep key then entries.lookup key else none := by
  induction entries with
  | nil => simp
  | cons e rest ih =>
      obtain ⟨other, value⟩ := e
      by_cases hkey : key = other
      · subst hkey
        cases hkeep : keep key <;> simp [hkeep, ih]
      · have hother : (key == other) = false := beq_eq_false_iff_ne.mpr hkey
        cases hkeep : keep other <;> simp [hkeep, List.lookup_cons, hother, ih]

end SlideDeck
