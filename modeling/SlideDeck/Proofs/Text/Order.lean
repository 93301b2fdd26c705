import SlideDeck.Text.Order

/-! # Members of ordered sets -/

namespace SlideDeck.Text

theorem mem_insertSorted {text x : String} {texts : List String} :
    x ∈ insertSorted text texts ↔ x = text ∨ x ∈ texts := by
  induction texts with
  | nil => simp [insertSorted]
  | cons other rest ih =>
      unfold insertSorted
      split
      next => exact List.mem_cons
      next =>
        split
        next _ heq => simp [heq]
        next =>
          simp only [List.mem_cons, ih]
          exact or_left_comm

/-- An ordered set has the texts that it was made of. -/
theorem mem_sortedSet {x : String} {texts : List String} :
    x ∈ sortedSet texts ↔ x ∈ texts := by
  induction texts with
  | nil => exact Iff.rfl
  | cons text rest ih =>
      rw [List.mem_cons, ← ih]
      exact mem_insertSorted

/-- The ordered set of one text, however often it is given. -/
theorem sortedSet_replicate (text : String) (n : Nat) :
    sortedSet (List.replicate (n + 1) text) = [text] := by
  induction n with
  | zero => rfl
  | succ n ih =>
      rw [List.replicate_succ, sortedSet, List.foldr_cons, ← sortedSet, ih]
      simp [insertSorted]

theorem sortedSet_eq_singleton {text : String} {texts : List String}
    (h : ∀ x, x ∈ texts ↔ x = text) : sortedSet texts = [text] := by
  cases texts with
  | nil => exact absurd ((h text).mpr rfl) List.not_mem_nil
  | cons first rest =>
      have hsame : first :: rest = List.replicate (rest.length + 1) text :=
        List.eq_replicate_of_mem fun x hx => (h x).mp hx
      rw [hsame]
      exact sortedSet_replicate text rest.length

end SlideDeck.Text
