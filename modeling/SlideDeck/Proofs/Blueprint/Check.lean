import SlideDeck.Blueprint.Basic
import SlideDeck.Proofs.Keys

/-!
# The check of a blueprint

A blueprint passes its check when it has slides and no two of them are at one position. A
blueprint that fails has no slides, or the check names the first position that is taken a
second time. Slides at different positions have one order, however they are listed.
-/

namespace SlideDeck.Blueprint

/-- No two slides are at one position. -/
def DistinctPositions (b : Blueprint) : Prop := (b.entries.map (·.position)).Nodup

instance (b : Blueprint) : Decidable b.DistinctPositions :=
  inferInstanceAs (Decidable (List.Nodup _))

/-- A position is the first that is taken a second time: the slides before this second time
are at different positions, and one of them is at this position. -/
def FirstRepeats (b : Blueprint) (position : Nat) : Prop :=
  ∃ front e back, b.entries = front ++ e :: back ∧ e.position = position ∧
    (front.map (·.position)).Nodup ∧ ∃ other ∈ front, other.position = position

theorem repeatedPosition?_eq_none_iff {seen : List Nat} {entries : List BlueprintEntry} :
    repeatedPosition? seen entries = none ↔
      (entries.map (·.position)).Nodup ∧ ∀ e ∈ entries, e.position ∉ seen := by
  induction entries generalizing seen with
  | nil => exact iff_of_true rfl ⟨List.nodup_nil, nofun⟩
  | cons e rest ih =>
      unfold repeatedPosition?
      split
      next hseen =>
        refine iff_of_false nofun fun ⟨_, hnew⟩ => ?_
        exact hnew e List.mem_cons_self (List.contains_iff_mem.mp hseen)
      next hseen =>
        have hnew : e.position ∉ seen := fun hmem => hseen (List.contains_iff_mem.mpr hmem)
        rw [ih, List.map_cons, List.nodup_cons, List.forall_mem_cons]
        simp only [List.mem_cons, not_or, List.mem_map, not_exists, not_and]
        constructor
        · rintro ⟨hrest, hothers⟩
          exact ⟨⟨fun other hother => (hothers other hother).1, hrest⟩, hnew,
            fun other hother => (hothers other hother).2⟩
        · rintro ⟨⟨hfirst, hrest⟩, _, hothers⟩
          exact ⟨hrest, fun other hother => ⟨hfirst other hother, hothers other hother⟩⟩

/-- The slides of a list are looked through one part after the other. -/
theorem repeatedPosition?_append (seen : List Nat) (front back : List BlueprintEntry) :
    repeatedPosition? seen (front ++ back) =
      (repeatedPosition? seen front).or
        (repeatedPosition? ((front.map (·.position)).reverse ++ seen) back) := by
  induction front generalizing seen with
  | nil => rfl
  | cons e rest ih =>
      rw [List.cons_append, repeatedPosition?, repeatedPosition?]
      split
      next => rfl
      next => rw [ih, List.map_cons, List.reverse_cons, List.append_assoc, List.singleton_append]

theorem repeatedPosition?_eq_some_iff {seen : List Nat} {entries : List BlueprintEntry}
    {position : Nat} :
    repeatedPosition? seen entries = some position ↔
      ∃ front e back, entries = front ++ e :: back ∧ e.position = position ∧
        repeatedPosition? seen front = none ∧
          position ∈ (front.map (·.position)).reverse ++ seen := by
  constructor
  · intro h
    induction entries generalizing seen with
    | nil => cases h
    | cons first rest ih =>
        rw [repeatedPosition?] at h
        split at h
        next hseen =>
          cases h
          exact ⟨[], first, rest, rfl, rfl, rfl, List.contains_iff_mem.mp hseen⟩
        next hseen =>
          obtain ⟨front, e, back, rfl, hposition, hfront, htaken⟩ := ih h
          refine ⟨first :: front, e, back, rfl, hposition, ?_, ?_⟩
          · rwa [repeatedPosition?, if_neg hseen]
          · rwa [List.map_cons, List.reverse_cons, List.append_assoc, List.singleton_append]
  · rintro ⟨front, e, back, rfl, rfl, hfront, htaken⟩
    rw [repeatedPosition?_append, hfront, Option.none_or, repeatedPosition?,
      if_pos (List.contains_iff_mem.mpr htaken)]

variable {b other : Blueprint}

theorem repeatedPosition?_entries_eq_none_iff :
    repeatedPosition? [] b.entries = none ↔ b.DistinctPositions := by
  rw [repeatedPosition?_eq_none_iff]
  exact and_iff_left fun _ _ => List.not_mem_nil

theorem repeatedPosition?_entries_eq_some_iff {position : Nat} :
    repeatedPosition? [] b.entries = some position ↔ b.FirstRepeats position := by
  rw [repeatedPosition?_eq_some_iff]
  simp only [repeatedPosition?_eq_none_iff, List.not_mem_nil, not_false_eq_true, implies_true,
    and_true, List.append_nil, List.mem_reverse, List.mem_map]
  rfl

/-- A position is taken twice just when there is a first that is. -/
theorem exists_firstRepeats_iff : (∃ position, b.FirstRepeats position) ↔
    ¬ b.DistinctPositions := by
  rw [← repeatedPosition?_entries_eq_none_iff, ← ne_eq, Option.ne_none_iff_exists']
  simp only [repeatedPosition?_entries_eq_some_iff]

theorem check_eq_ok_iff : b.check = .ok () ↔ b.entries ≠ [] ∧ b.DistinctPositions := by
  unfold check
  rw [← repeatedPosition?_entries_eq_none_iff]
  split
  next hempty => exact iff_of_false nofun fun ⟨hentries, _⟩ => hentries (List.isEmpty_iff.mp hempty)
  next hempty =>
    have hentries : b.entries ≠ [] := fun hnil => hempty (List.isEmpty_iff.mpr hnil)
    cases repeatedPosition? [] b.entries with
    | none => exact iff_of_true rfl ⟨hentries, rfl⟩
    | some position => exact iff_of_false nofun fun ⟨_, hnone⟩ => nomatch hnone

theorem check_eq_error_iff {fault : BlueprintError} :
    b.check = .error fault ↔
      (b.entries = [] ∧ fault = .empty) ∨
        ∃ position, b.FirstRepeats position ∧ fault = .duplicatePosition position := by
  unfold check
  simp only [← repeatedPosition?_entries_eq_some_iff]
  split
  next hempty =>
    have hentries := List.isEmpty_iff.mp hempty
    rw [hentries]
    simp [repeatedPosition?, eq_comm]
  next hempty =>
    have hentries : b.entries ≠ [] := fun hnil => hempty (List.isEmpty_iff.mpr hnil)
    cases repeatedPosition? [] b.entries <;> simp [hentries, eq_comm]

/-! ## The order of slides -/

theorem sorted_perm (b : Blueprint) : b.sorted.entries.Perm b.entries :=
  List.mergeSort_perm _ _

namespace DistinctPositions

theorem of_perm (h : b.DistinctPositions) (hperm : b.entries.Perm other.entries) :
    other.DistinctPositions :=
  (hperm.map _).nodup_iff.mp h

theorem pairwise_sorted (h : b.DistinctPositions) :
    b.sorted.entries.Pairwise fun x y => x.position < y.position :=
  pairwise_lt_mergeSort_key h

theorem sorted_eq_of_perm (h : b.DistinctPositions) (hperm : b.entries.Perm other.entries) :
    b.sorted = other.sorted :=
  congrArg Blueprint.mk (mergeSort_key_eq_of_perm h hperm)

theorem check_eq_of_perm (h : b.DistinctPositions) (hperm : b.entries.Perm other.entries) :
    b.check = other.check := by
  unfold check
  rw [repeatedPosition?_entries_eq_none_iff.mpr h,
    repeatedPosition?_entries_eq_none_iff.mpr (h.of_perm hperm), hperm.isEmpty_eq]

end DistinctPositions

end SlideDeck.Blueprint
