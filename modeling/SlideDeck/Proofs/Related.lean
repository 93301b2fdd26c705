import Mathlib.Data.List.Forall2

/-!
# Lists that are related element by element

What is made of the elements of a list is related to those that it is made of, in their order.
What is related to an element of a list stands at the same place in the other one.
-/

namespace SlideDeck

variable {α β : Type} {r : α → β → Prop}

/-- What is made of the elements of a list comes in the order of those that it is made of. -/
theorem exists_sublist_filterMap {f : α → Option β} (hf : ∀ a b, f a = some b → r a b)
    (xs : List α) : ∃ made : List α, made.Sublist xs ∧ List.Forall₂ r made (xs.filterMap f) := by
  induction xs with
  | nil => exact ⟨[], .slnil, .nil⟩
  | cons x rest ih =>
      obtain ⟨made, hsublist, hrelated⟩ := ih
      cases hx : f x with
      | none =>
          rw [List.filterMap_cons_none hx]
          exact ⟨made, hsublist.cons x, hrelated⟩
      | some y =>
          rw [List.filterMap_cons_some hx]
          exact ⟨x :: made, hsublist.cons_cons x, .cons (hf x y hx) hrelated⟩

namespace Forall₂

/-- The element at the place of another one, between those in front of it and those behind. -/
theorem exists_append_cons {xs : List α} {front back : List β} {y : β}
    (h : List.Forall₂ r xs (front ++ y :: back)) :
    ∃ front' x back', xs = front' ++ x :: back' ∧ List.Forall₂ r front' front ∧ r x y ∧
      List.Forall₂ r back' back := by
  obtain ⟨x, back', hxy, hback, hdrop⟩ :=
    List.forall₂_cons_right_iff.mp (List.forall₂_drop_append _ _ _ h)
  refine ⟨_, x, back', ?_, List.forall₂_take_append _ _ _ h, hxy, hback⟩
  rw [← hdrop, List.take_append_drop]

theorem exists_mem {xs : List α} {ys : List β} (h : List.Forall₂ r xs ys) {y : β}
    (hy : y ∈ ys) : ∃ x ∈ xs, r x y := by
  obtain ⟨front, back, rfl⟩ := List.append_of_mem hy
  obtain ⟨front', x, back', rfl, _, hxy, _⟩ := exists_append_cons h
  exact ⟨x, List.mem_append_right _ List.mem_cons_self, hxy⟩

theorem exists_getElem? {xs : List α} {ys : List β} (h : List.Forall₂ r xs ys) {i : Nat} {x : α}
    (hx : xs[i]? = some x) : ∃ y, ys[i]? = some y ∧ r x y := by
  obtain ⟨hlt, rfl⟩ := List.getElem?_eq_some_iff.mp hx
  have hlt' : i < ys.length := h.length_eq ▸ hlt
  exact ⟨ys[i], List.getElem?_eq_getElem hlt', h.get hlt hlt'⟩

end Forall₂

end SlideDeck
