import Mathlib.Data.List.Nodup
import Mathlib.Data.Rat.Floor
import Mathlib.Tactic.Linarith
import SlideDeck.Proofs.Assembly.Trimming

/-!
# Sections that are dropped at once

To drop the least important section again and again is to put the sections that are not
protected into one order, by their importance and then from the last to the first, and to drop
as many as have to go from the front of this order. Places keep equal sections apart.
-/

namespace SlideDeck

/-- Where no section is to drop, all are protected. -/
theorem isProtected_of_victim? {sections : List Section} (h : victim? sections = none) :
    ∀ s ∈ sections, s.isProtected = true := by
  have hsearch := victimSearch_go 0 sections
  rw [Option.map_eq_none_iff.mp h] at hsearch
  cases hsearch with
  | none hprotected => exact hprotected

/-! ## The order in which sections go -/

/-- A section at a place goes before another, or is it: it is less important, or it is as
important and not in front of the other. -/
def GoesBefore (x y : Section × Nat) : Prop :=
  x.1.priority < y.1.priority ∨ x.1.priority = y.1.priority ∧ y.2 ≤ x.2

instance (x y : Section × Nat) : Decidable (GoesBefore x y) :=
  inferInstanceAs (Decidable (_ ∨ _))

/-- The sections that are not protected, with their places, in the order in which they go. -/
def expendable (xs : List (Section × Nat)) : List (Section × Nat) :=
  (xs.filter fun x => !x.1.isProtected).mergeSort fun x y => GoesBefore x y

/-- The sections that are left, with their places, when some have gone. -/
def remaining (count : Nat) (xs : List (Section × Nat)) : List (Section × Nat) :=
  xs.filter fun x => x ∉ (expendable xs).take count

/-- The number of sections that go one after another until no more than some are left: not
the last one, and none that is protected. -/
def excess (most : Nat) (xs : List (Section × Nat)) : Nat :=
  min (xs.length - most) (min (xs.length - 1) (expendable xs).length)

/-- The slides of a deck beside those of its sections. -/
def framing (hasClosing : Bool) : Nat := 1 + hasClosing.toNat

/-- The number of sections that have to go and can: those beyond the bound, but not the last
one that is left and none that is protected. -/
def surplus (sections : List Section) (target : Nat) (hasClosing : Bool) : Nat :=
  min (sections.length + framing hasClosing - slideUpperBound target)
    (min (sections.length - 1) (sections.countP fun s => !s.isProtected))

theorem goesBefore_trans (x y z : Section × Nat) (hxy : decide (GoesBefore x y) = true)
    (hyz : decide (GoesBefore y z) = true) : decide (GoesBefore x z) = true := by
  have hxy := of_decide_eq_true hxy
  have hyz := of_decide_eq_true hyz
  apply decide_eq_true
  unfold GoesBefore at *
  omega

theorem goesBefore_total (x y : Section × Nat) :
    (decide (GoesBefore x y) || decide (GoesBefore y x)) = true := by
  rw [Bool.or_eq_true, decide_eq_true_iff, decide_eq_true_iff]
  unfold GoesBefore
  omega

variable {xs front back : List (Section × Nat)} {x v : Section × Nat}

theorem expendable_perm (xs : List (Section × Nat)) :
    (expendable xs).Perm (xs.filter fun x => !x.1.isProtected) :=
  List.mergeSort_perm _ _

theorem mem_expendable : x ∈ expendable xs ↔ x ∈ xs ∧ x.1.isProtected = false := by
  rw [(expendable_perm xs).mem_iff, List.mem_filter, Bool.not_eq_true']

theorem pairwise_expendable (xs : List (Section × Nat)) :
    (expendable xs).Pairwise GoesBefore :=
  (List.pairwise_mergeSort goesBefore_trans goesBefore_total _).imp of_decide_eq_true

theorem length_expendable (xs : List (Section × Nat)) :
    (expendable xs).length = (xs.map Prod.fst).countP fun s => !s.isProtected := by
  rw [(expendable_perm xs).length_eq, ← List.countP_eq_length_filter, List.countP_map]
  rfl

/-- Sections with their places, from the first to the last. -/
def IsPlaced (xs : List (Section × Nat)) : Prop := xs.Pairwise fun x y => x.2 < y.2

theorem isPlaced_zipIdx (sections : List Section) (start : Nat) :
    IsPlaced (sections.zipIdx start) := by
  have hplaces : ((sections.zipIdx start).map Prod.snd).Pairwise (· < ·) := by
    rw [List.zipIdx_map_snd]
    exact List.pairwise_lt_range'
  exact List.pairwise_map.mp hplaces

namespace IsPlaced

theorem nodup (h : IsPlaced xs) : xs.Nodup :=
  List.Pairwise.imp (fun hlt heq => Nat.ne_of_lt hlt (congrArg Prod.snd heq)) h

/-- Of sections that go before one another the place is the same, and so are they. -/
theorem eq_of_goesBefore (h : IsPlaced xs) {y : Section × Nat} (hx : x ∈ xs) (hy : y ∈ xs)
    (hxy : GoesBefore x y) (hyx : GoesBefore y x) : x = y := by
  have hplaces : (xs.map Prod.snd).Nodup := List.pairwise_map.mpr (h.imp Nat.ne_of_lt)
  apply List.inj_on_of_nodup_map hplaces hx hy
  unfold GoesBefore at hxy hyx
  omega

/-- The section to drop is the first to go. -/
theorem expendable_eq (h : IsPlaced (front ++ v :: back))
    (hvictim : IsVictim (front.map Prod.fst) v.1 (back.map Prod.fst)) :
    expendable (front ++ v :: back) = v :: expendable (front ++ back) := by
  have hfront : ∀ x ∈ front, x.2 < v.2 := by
    intro x hx
    exact (List.pairwise_append.mp h).2.2 x hx v List.mem_cons_self
  have hperm : (expendable (front ++ v :: back)).Perm (v :: expendable (front ++ back)) := by
    refine (expendable_perm _).trans (List.Perm.trans ?_ ((expendable_perm _).symm.cons v))
    rw [List.filter_append, List.filter_append,
      List.filter_cons_of_pos (by simp [hvictim.unprotected])]
    exact List.perm_middle
  apply List.Perm.eq_of_pairwise ?_ (pairwise_expendable _) ?_ hperm
  · intro x y hx hy
    exact h.eq_of_goesBefore (mem_expendable.mp hx).1
      (mem_expendable.mp (hperm.mem_iff.mpr hy)).1
  · refine List.pairwise_cons.mpr ⟨fun x hx => ?_, pairwise_expendable _⟩
    obtain ⟨hmem, hunprotected⟩ := mem_expendable.mp hx
    -- those in front can be as important, those behind have to be more important
    rcases List.mem_append.mp hmem with hmem | hmem
    · have hpriority := hvictim.least _ (List.mem_map_of_mem hmem) hunprotected
      have hplace := hfront x hmem
      unfold GoesBefore
      omega
    · exact .inl (hvictim.last _ (List.mem_map_of_mem hmem) hunprotected)

/-- One section more has gone when the one to drop is dropped first. -/
theorem remaining_succ (h : IsPlaced (front ++ v :: back))
    (hvictim : IsVictim (front.map Prod.fst) v.1 (back.map Prod.fst)) (count : Nat) :
    remaining (count + 1) (front ++ v :: back) = remaining count (front ++ back) := by
  have hothers : v ∉ front ++ back := by
    have hnodup := List.perm_middle.nodup_iff.mp h.nodup
    exact (List.nodup_cons.mp hnodup).1
  have hother : ∀ x ∈ front ++ back, (decide (x ∉ v :: (expendable (front ++ back)).take count)) =
      decide (x ∉ (expendable (front ++ back)).take count) := by
    intro x hx
    have hne : x ≠ v := fun heq => hothers (heq ▸ hx)
    simp [hne]
  unfold remaining
  rw [h.expendable_eq hvictim, List.take_succ_cons, ← List.filter_congr hother,
    List.filter_append, List.filter_append, List.filter_cons_of_neg (by simp)]

/-- Where more sections are left than should be and one of them is to drop, it counts among
those that go. -/
theorem excess_eq (h : IsPlaced (front ++ v :: back))
    (hvictim : IsVictim (front.map Prod.fst) v.1 (back.map Prod.fst)) {most : Nat}
    (hmore : most < (front ++ v :: back).length ∧ 1 < (front ++ v :: back).length) :
    excess most (front ++ v :: back) = excess most (front ++ back) + 1 := by
  have hlength : (front ++ v :: back).length = (front ++ back).length + 1 :=
    List.perm_middle.length_eq
  have hmost : (front ++ v :: back).length - most = (front ++ back).length - most + 1 := by
    omega
  have hlast : (front ++ v :: back).length - 1 = (front ++ back).length - 1 + 1 := by
    omega
  rw [excess, excess, h.expendable_eq hvictim, hmost, hlast, List.length_cons,
    Nat.add_min_add_right, Nat.add_min_add_right]

/-! ## Dropping one after another -/

theorem remaining_zero (xs : List (Section × Nat)) : remaining 0 xs = xs :=
  List.filter_eq_self.mpr fun _ _ => rfl

theorem excess_of_victim?_eq_none (most : Nat) (hnone : victim? (xs.map Prod.fst) = none) :
    excess most xs = 0 := by
  have hexpendable : expendable xs = [] := by
    rw [List.eq_nil_iff_forall_not_mem]
    intro x hx
    obtain ⟨hmem, hunprotected⟩ := mem_expendable.mp hx
    rw [isProtected_of_victim? hnone _ (List.mem_map_of_mem hmem)] at hunprotected
    cases hunprotected
  rw [excess, hexpendable, List.length_nil, Nat.min_zero, Nat.min_zero]

/-- Dropping sections one after another comes to dropping them at once. -/
theorem dropDown_eq (h : IsPlaced xs) (most count : Nat) :
    dropDown most count (xs.map Prod.fst) =
      (remaining (min count (excess most xs)) xs).map Prod.fst := by
  induction count generalizing xs with
  | zero => rw [Nat.zero_min, remaining_zero, dropDown]
  | succ count ih =>
      unfold dropDown
      rw [List.length_map]
      split
      next hmore =>
        cases hvictim? : victim? (xs.map Prod.fst) with
        | none =>
            rw [excess_of_victim?_eq_none most hvictim?, Nat.min_zero, remaining_zero]
        | some i =>
            obtain ⟨front', s, back', hsections, rfl, hvictim⟩ := isVictim_of_victim? hvictim?
            obtain ⟨front, others, rfl, rfl, hothers⟩ := List.map_eq_append_iff.mp hsections
            obtain ⟨v, back, rfl, rfl, rfl⟩ := List.map_eq_cons_iff.mp hothers
            have hleft : ((front ++ v :: back).map Prod.fst).eraseIdx (front.map Prod.fst).length =
                (front ++ back).map Prod.fst := by
              simp [List.eraseIdx_append_of_length_le]
            have hplaced : IsPlaced (front ++ back) :=
              List.Pairwise.sublist ((List.sublist_cons_self v back).append_left front) h
            dsimp only
            rw [hleft, ih hplaced, h.excess_eq hvictim hmore, Nat.add_min_add_right,
              h.remaining_succ hvictim]
      next hfits =>
        have hnone : excess most xs = 0 := by
          unfold excess
          omega
        rw [hnone, Nat.min_zero, remaining_zero]

/-! ## What is left -/

theorem nodup_expendable (h : IsPlaced xs) : (expendable xs).Nodup :=
  (expendable_perm xs).nodup_iff.mpr (h.nodup.filter _)

/-- As many sections go as are to go, if there are so many. -/
theorem length_remaining (h : IsPlaced xs) {count : Nat} (hcount : count ≤ (expendable xs).length) :
    (remaining count xs).length + count = xs.length := by
  have hgone : (xs.filter fun x => x ∈ (expendable xs).take count).Perm
      ((expendable xs).take count) := by
    rw [List.perm_ext_iff_of_nodup (h.nodup.filter _)
      (h.nodup_expendable.sublist (List.take_sublist _ _))]
    intro x
    rw [List.mem_filter, decide_eq_true_eq, and_iff_right_iff_imp]
    exact fun hx => (mem_expendable.mp (List.mem_of_mem_take hx)).1
  have hsplit : xs.length = ((expendable xs).take count).length + (remaining count xs).length := by
    rw [← hgone.length_eq, remaining]
    simpa using xs.length_eq_length_filter_add fun x => decide (x ∈ (expendable xs).take count)
  rw [List.length_take] at hsplit
  omega

end IsPlaced

/-- The more sections go, the fewer are left. -/
theorem remaining_sublist {few many : Nat} (h : few ≤ many) (xs : List (Section × Nat)) :
    (remaining many xs).Sublist (remaining few xs) := by
  apply List.monotone_filter_right
  intro x hx
  rw [decide_eq_true_eq] at hx ⊢
  exact fun hmem => hx ((List.take_sublist_take_left h).mem hmem)

theorem mem_remaining_of_isProtected {count : Nat} (hmem : x ∈ xs)
    (hprotected : x.1.isProtected = true) : x ∈ remaining count xs := by
  refine List.mem_filter.mpr ⟨hmem, decide_eq_true fun htake => ?_⟩
  rw [(mem_expendable.mp (List.mem_of_mem_take htake)).2] at hprotected
  cases hprotected

/-- Where all go that can, those that are left are protected. -/
theorem isProtected_of_mem_remaining {count : Nat} (hcount : (expendable xs).length ≤ count)
    (hx : x ∈ remaining count xs) : x.1.isProtected = true := by
  obtain ⟨hmem, hkept⟩ := List.mem_filter.mp hx
  rw [List.take_of_length_le hcount, decide_eq_true_eq, mem_expendable, not_and,
    Bool.not_eq_false] at hkept
  exact hkept hmem

/-! ## Targets -/

/-- A product that fits a word is what it should be. -/
theorem wordProduct_of_lt {a b : Nat} (h : a * b < UInt64.size) : wordProduct a b = a * b :=
  Nat.mod_eq_of_lt h

/-- The most slides that are within the tolerance of a target are six fifths of it, unless the
product that they are computed from does not fit a word. -/
theorem slideUpperBound_eq_ceil {target : Nat} (h : target * 120 < UInt64.size) :
    slideUpperBound target = ⌈(1.2 : ℚ) * target⌉₊ := by
  apply eq_of_forall_ge_iff
  intro most
  have hscaled : (1.2 : ℚ) * target ≤ most ↔ 6 * target ≤ 5 * most := by
    rw [← Nat.cast_le (α := ℚ)]
    push_cast
    constructor <;> intro h <;> linarith
  rw [Nat.ceil_le, hscaled, slideUpperBound, wordProduct_of_lt h]
  omega

theorem surplus_anti (sections : List Section) (hasClosing : Bool) {target larger : Nat}
    (h : target ≤ larger) (hlarger : larger * 120 < UInt64.size) :
    surplus sections larger hasClosing ≤ surplus sections target hasClosing := by
  have htarget : target * 120 < UInt64.size := (Nat.mul_le_mul_right 120 h).trans_lt hlarger
  unfold surplus slideUpperBound
  rw [wordProduct_of_lt hlarger, wordProduct_of_lt htarget]
  omega

theorem surplus_le_length_expendable (sections : List Section) (target : Nat)
    (hasClosing : Bool) :
    surplus sections target hasClosing ≤ (expendable sections.zipIdx).length := by
  rw [length_expendable, List.zipIdx_map_fst, surplus]
  omega

/-- Those go that leave no room for the cover and the closing slide. -/
theorem surplus_eq (sections : List Section) (target : Nat) (hasClosing : Bool) :
    surplus sections target hasClosing = min sections.length
      (excess (slideUpperBound target - framing hasClosing) sections.zipIdx) := by
  have hframing : 1 ≤ framing hasClosing := Nat.le_add_right ..
  rw [excess, length_expendable, List.zipIdx_map_fst, List.length_zipIdx, surplus]
  omega

theorem trimSections_some (sections : List Section) (target : Nat) (hasClosing : Bool) :
    trimSections sections (some target) hasClosing =
      (remaining (surplus sections target hasClosing) sections.zipIdx).map Prod.fst := by
  have hrun := (isPlaced_zipIdx sections 0).dropDown_eq
    (slideUpperBound target - framing hasClosing) sections.length
  rw [← surplus_eq, List.zipIdx_map_fst] at hrun
  rw [← hrun]
  cases hasClosing <;> rfl

theorem length_trimSections_some (sections : List Section) (target : Nat) (hasClosing : Bool) :
    (trimSections sections (some target) hasClosing).length +
      surplus sections target hasClosing = sections.length := by
  have hlength := (isPlaced_zipIdx sections 0).length_remaining
    (surplus_le_length_expendable sections target hasClosing)
  rwa [List.length_zipIdx, ← List.length_map Prod.fst, ← trimSections_some] at hlength

/-- A deck stays above its bound only with one section, or with protected sections alone. -/
theorem trimSections_above_bound {sections : List Section} {target : Nat} {hasClosing : Bool}
    (h : slideUpperBound target <
      (trimSections sections (some target) hasClosing).length + framing hasClosing) :
    (trimSections sections (some target) hasClosing).length = 1 ∨
      ∀ s ∈ trimSections sections (some target) hasClosing, s.isProtected = true := by
  have hlength := length_trimSections_some sections target hasClosing
  by_cases hall : (expendable sections.zipIdx).length ≤ surplus sections target hasClosing
  · right
    intro s hs
    rw [trimSections_some] at hs
    obtain ⟨x, hx, rfl⟩ := List.mem_map.mp hs
    exact isProtected_of_mem_remaining hall hx
  · -- some that could go have stayed, so the last section did
    rw [length_expendable, List.zipIdx_map_fst] at hall
    have hsome : (sections.countP fun s => !s.isProtected) ≤ sections.length :=
      List.countP_le_length
    left
    unfold surplus at hall hlength
    omega

/-- Trimming is a selection. With a target, from the sections in the order in which they go,
it drops as many as are beyond its bound, short of the last section and of those that are
protected; the rest stays in its order. So protected sections stay, and what is left is above
the bound only if it is one section or all of it is protected. The bound is six fifths of the
target, and a greater target keeps what a smaller one keeps, as long as 120 times the target
fits a word. -/
theorem trimSections_selects (sections : List Section) (hasClosing : Bool) :
    trimSections sections none hasClosing = sections ∧
    ∀ target,
      (target * 120 < UInt64.size → slideUpperBound target = ⌈(1.2 : ℚ) * target⌉₊) ∧
      trimSections sections (some target) hasClosing =
        (remaining (surplus sections target hasClosing) sections.zipIdx).map Prod.fst ∧
      (trimSections sections (some target) hasClosing).length +
        surplus sections target hasClosing = sections.length ∧
      (∀ x ∈ sections.zipIdx, x.1.isProtected = true →
        x ∈ remaining (surplus sections target hasClosing) sections.zipIdx) ∧
      (slideUpperBound target <
          (trimSections sections (some target) hasClosing).length + framing hasClosing →
        (trimSections sections (some target) hasClosing).length = 1 ∨
          ∀ s ∈ trimSections sections (some target) hasClosing, s.isProtected = true) ∧
      ∀ larger, target ≤ larger → larger * 120 < UInt64.size →
        (remaining (surplus sections target hasClosing) sections.zipIdx).Sublist
          (remaining (surplus sections larger hasClosing) sections.zipIdx) := by
  refine ⟨rfl, fun target => ⟨slideUpperBound_eq_ceil,
    trimSections_some sections target hasClosing,
    length_trimSections_some sections target hasClosing,
    fun x => mem_remaining_of_isProtected, trimSections_above_bound,
    fun larger hlarger hfits => ?_⟩⟩
  exact remaining_sublist (surplus_anti sections hasClosing hlarger hfits) _

/-- Two sections that have to stay, and two that are alike and can go. -/
def rankedSections : List Section :=
  [{ title := "Costs", priority := 5 }, { title := "Notes", priority := 2 },
    { title := "Risks", priority := 4 }, { title := "Notes", priority := 2 }]

/-- For one slide both notes go, which leaves the deck above the bound with sections that
are protected. For four slides only the second one goes. -/
theorem trimSections_selects_rankedSections :
    let shown := trimSections rankedSections (some 1) true
    shown.map (·.title) = ["Costs", "Risks"] ∧
      slideUpperBound 1 = ⌈(1.2 : ℚ) * (1 : Nat)⌉₊ ∧
      slideUpperBound 1 < shown.length + framing true ∧
      (shown.length = 1 ∨ ∀ s ∈ shown, s.isProtected = true) ∧
      ({ title := "Risks", priority := 4 }, 2) ∈
        remaining (surplus rankedSections 4 true) rankedSections.zipIdx ∧
      (trimSections rankedSections (some 4) true).map (·.title) = ["Costs", "Notes", "Risks"] ∧
      (remaining (surplus rankedSections 1 true) rankedSections.zipIdx).Sublist
        (remaining (surplus rankedSections 4 true) rankedSections.zipIdx) := by
  have habove : slideUpperBound 1 <
      (trimSections rankedSections (some 1) true).length + framing true := by decide
  obtain ⟨_, htargets⟩ := trimSections_selects rankedSections true
  obtain ⟨hbound, _, _, _, hstays, hlarger⟩ := htargets 1
  obtain ⟨_, _, _, hprotected, _⟩ := htargets 4
  exact ⟨by decide, hbound (by decide), habove, hstays habove, hprotected _ (by decide) rfl,
    by decide, hlarger 4 (by decide) (by decide)⟩

end SlideDeck
