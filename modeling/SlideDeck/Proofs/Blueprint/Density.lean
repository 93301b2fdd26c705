import Mathlib.Data.List.Perm.Subperm
import SlideDeck.Proofs.Blueprint.Check
import SlideDeck.Proofs.Blueprint.Numbering

/-!
# Dense blueprints

The slides of a dense blueprint are at the positions from zero on, in this order. Slides that
are listed in another order are dense once they are sorted, if they are at different positions
and none of these is as great as their number.
-/

namespace SlideDeck.Blueprint

variable {b : Blueprint}

theorem distinctPositions_of_isDense (h : b.isDense = true) : b.DistinctPositions := by
  rw [DistinctPositions, positions_of_isDense h]
  exact List.nodup_range

/-- Dense slides are in the order of their positions. -/
theorem sorted_of_isDense (h : b.isDense = true) : b.sorted = b := by
  have hpositions : (b.entries.map (·.position)).Pairwise (· ≤ ·) := by
    rw [positions_of_isDense h]
    exact List.pairwise_le_range
  have hsorted : b.entries.mergeSort (fun x y => x.position ≤ y.position) = b.entries := by
    apply List.mergeSort_of_pairwise
    exact (List.pairwise_map.mp hpositions).imp fun hle => decide_eq_true hle
  exact congrArg Blueprint.mk hsorted

/-- What is said of dense slides and their positions is said of them and their places. -/
theorem map_position_of_isDense {α : Type} (h : b.isDense = true)
    (f : Nat → BlueprintEntry → α) :
    b.entries.map (fun e => f e.position e) = b.entries.mapIdx f := by
  apply List.ext_getElem?
  intro i
  rw [List.getElem?_map, List.getElem?_mapIdx]
  cases hi : b.entries[i]? with
  | none => rfl
  | some e =>
      rw [Option.map_some, Option.map_some, position_of_getElem? (positions_of_isDense h) hi]

theorem size_sorted (b : Blueprint) : b.sorted.size = b.size := b.sorted_perm.length_eq

/-- Slides are dense in the order of their positions when these are different and all below
the number of slides. -/
theorem isDense_sorted_iff :
    b.sorted.isDense = true ↔
      b.DistinctPositions ∧ ∀ e ∈ b.entries, e.position < b.size := by
  constructor
  · intro h
    refine ⟨(distinctPositions_of_isDense h).of_perm b.sorted_perm, fun e he => ?_⟩
    have hposition : e.position ∈ b.sorted.entries.map (·.position) :=
      List.mem_map_of_mem (b.sorted_perm.mem_iff.mpr he)
    rw [positions_of_isDense h, List.mem_range] at hposition
    exact b.size_sorted ▸ hposition
  · rintro ⟨hdistinct, hbelow⟩
    have hascending : (b.sorted.entries.map (·.position)).Pairwise (· < ·) :=
      List.pairwise_map.mpr hdistinct.pairwise_sorted
    have hsubset : b.sorted.entries.map (·.position) ⊆ List.range b.size := by
      intro position hposition
      obtain ⟨e, he, rfl⟩ := List.mem_map.mp hposition
      exact List.mem_range.mpr (hbelow e (b.sorted_perm.mem_iff.mp he))
    -- there are as many positions as numbers below the size, so they are these numbers
    have hperm : (b.sorted.entries.map (·.position)).Perm (List.range b.size) := by
      apply (List.subperm_of_subset (hascending.imp Nat.ne_of_lt) hsubset).perm_of_length_le
      rw [List.length_range, List.length_map]
      exact Nat.le_of_eq b.size_sorted.symm
    have hpositions : b.sorted.entries.map (·.position) = List.range b.size :=
      List.Perm.eq_of_pairwise (fun _ _ _ _ => Nat.le_antisymm)
        (hascending.imp Nat.le_of_lt) List.pairwise_le_range hperm
    rw [isDense, countsFrom_iff, hpositions, List.range_eq_range']
    exact congrArg (List.range' 0) b.size_sorted.symm

end SlideDeck.Blueprint
