import Mathlib.Tactic.FieldSimp
import SlideDeck.Proofs.Numeric.Rounding

/-!
# Shortest decimals

On the grid of seventeen digits one of the neighbours of a double reads back to it, so the search
for the shortest decimal ends with one that does.
-/

namespace SlideDeck

/-- The exact value of a decimal. -/
def Decimal.value (d : Decimal) : ℚ := d.coefficient * 10 ^ d.exponent

theorem Magnitude.ratio_fst_pos (m : Magnitude) (h : m.significand ≠ 0) : 0 < m.ratio.1 := by
  unfold Magnitude.ratio
  split
  next =>
    rw [Nat.shiftLeft_eq]
    exact Nat.mul_pos (Nat.pos_of_ne_zero h) (by positivity)
  next => exact Nat.pos_of_ne_zero h

theorem zpow_toNat {b : ℚ} (hb : b ≠ 0) (k : ℤ) :
    b ^ k.toNat = b ^ k * b ^ (-k).toNat := by
  obtain ⟨n, rfl | rfl⟩ := k.eq_nat_or_neg
  · simp
  · simp [hb]

namespace Decimal

open BinaryFormat

variable {f : BinaryFormat} {tie : Tie} {m : Magnitude}

/-- A decimal and the quarter gap of a magnitude, multiplied by what makes both natural numbers. -/
def commonMultiples (m : Magnitude) (c : ℕ) (k : ℤ) : ℕ × ℕ :=
  ((if 0 ≤ k then c * Nat.pow 10 k.toNat else c) <<< (-(m.exponent - 2)).toNat,
    (if 0 ≤ k then 1 else Nat.pow 10 (-k).toNat) <<< (m.exponent - 2).toNat)

theorem exists_commonFactor (m : Magnitude) (c : ℕ) (k : ℤ) :
    ∃ factor : ℚ, 0 < factor ∧ ((commonMultiples m c k).1 : ℚ) = c * 10 ^ k * factor ∧
      ((commonMultiples m c k).2 : ℚ) = m.quarterGap * factor := by
  refine ⟨10 ^ (-k).toNat * 2 ^ (-(m.exponent - 2)).toNat, by positivity, ?_, ?_⟩
  · have hnat : (commonMultiples m c k).1 = c * 10 ^ k.toNat * 2 ^ (-(m.exponent - 2)).toNat := by
      unfold commonMultiples
      rw [← Nat.shiftLeft_eq]
      split
      next => rfl
      next hk => rw [Int.toNat_of_nonpos (show k ≤ 0 by omega), Nat.pow_zero, Nat.mul_one]
    rw [hnat]
    push_cast
    rw [zpow_toNat (by norm_num) k]
    ring
  · have hnat : (commonMultiples m c k).2 = 10 ^ (-k).toNat * 2 ^ (m.exponent - 2).toNat := by
      unfold commonMultiples
      rw [← Nat.shiftLeft_eq]
      split
      next hk => rw [Int.toNat_of_nonpos (show -k ≤ 0 by omega), Nat.pow_zero]
      next => rfl
    rw [hnat, Magnitude.quarterGap]
    push_cast
    rw [zpow_toNat two_ne_zero (m.exponent - 2)]
    ring

/-- The check of a decimal in natural numbers is the check of its value. -/
theorem readsBack_iff {d : Decimal} :
    readsBack f m d.coefficient d.exponent = true ↔ f.RoundsTo m d.value := by
  obtain ⟨c, k⟩ := d
  obtain ⟨factor, hfactor, hleft, hunit⟩ := exists_commonFactor m c k
  change (if m.significand % 2 = 0 then
      (halfGaps f m).1 * (commonMultiples m c k).2 ≤ (commonMultiples m c k).1 &&
        (commonMultiples m c k).1 ≤ (halfGaps f m).2 * (commonMultiples m c k).2
    else (halfGaps f m).1 * (commonMultiples m c k).2 < (commonMultiples m c k).1 &&
      (commonMultiples m c k).1 < (halfGaps f m).2 * (commonMultiples m c k).2) = true ↔ _
  generalize commonMultiples m c k = multiples at hleft hunit
  have hmul (n : ℕ) : ((n * multiples.2 : ℕ) : ℚ) = n * m.quarterGap * factor := by
    rw [Nat.cast_mul, hunit, mul_assoc]
  have hle (n : ℕ) : n * multiples.2 ≤ multiples.1 ↔ n * m.quarterGap ≤ c * (10 : ℚ) ^ k := by
    rw [← Nat.cast_le (α := ℚ), hleft, hmul, mul_le_mul_iff_left₀ hfactor]
  have hge (n : ℕ) : multiples.1 ≤ n * multiples.2 ↔ c * (10 : ℚ) ^ k ≤ n * m.quarterGap := by
    rw [← Nat.cast_le (α := ℚ), hleft, hmul, mul_le_mul_iff_left₀ hfactor]
  unfold RoundsTo lowEnd highEnd value
  split
  next => rw [Bool.and_eq_true, decide_eq_true_iff, decide_eq_true_iff, hle, hge]
  next =>
    rw [Bool.and_eq_true, decide_eq_true_iff, decide_eq_true_iff, ← not_le, ← not_le, hle, hge,
      not_le, not_le]

/-! ## Grids -/

/-- A magnitude over a power of ten, as a quotient of natural numbers. -/
def scaledRatio (m : Magnitude) (k : ℤ) : ℕ × ℕ :=
  if 0 ≤ k then (m.ratio.1, m.ratio.2 * Nat.pow 10 k.toNat)
  else (m.ratio.1 * Nat.pow 10 (-k).toNat, m.ratio.2)

/-- How often a power of ten fits into a magnitude. -/
def floorOn (m : Magnitude) (k : ℤ) : ℕ := (scaledRatio m k).1 / (scaledRatio m k).2

theorem value_eq_scaledRatio (m : Magnitude) (k : ℤ) :
    0 < (scaledRatio m k).2 ∧
      m.value = (scaledRatio m k).1 / (scaledRatio m k).2 * (10 : ℚ) ^ k := by
  have hden := Nat.pos_of_ne_zero m.ratio_snd_ne_zero
  rw [m.value_eq_ratio]
  unfold scaledRatio
  split
  next hk =>
    obtain ⟨n, rfl⟩ := Int.eq_ofNat_of_zero_le hk
    refine ⟨Nat.mul_pos hden (Nat.pow_pos (by norm_num)), ?_⟩
    rw [Int.toNat_natCast, Nat.pow_eq, zpow_natCast]
    push_cast
    field_simp
  next hk =>
    obtain ⟨n, hn⟩ := Int.eq_ofNat_of_zero_le (show 0 ≤ -k by omega)
    obtain rfl : k = -(n : ℤ) := by omega
    refine ⟨hden, ?_⟩
    rw [neg_neg, Int.toNat_natCast, Nat.pow_eq, zpow_neg, zpow_natCast]
    push_cast
    field_simp

/-- A magnitude lies between its two neighbours on a grid. -/
theorem value_floorOn (m : Magnitude) (k : ℤ) :
    (⟨floorOn m k, k⟩ : Decimal).value ≤ m.value ∧
      m.value < (⟨floorOn m k + 1, k⟩ : Decimal).value := by
  obtain ⟨hden, hvalue⟩ := value_eq_scaledRatio m k
  have hpower : (0 : ℚ) < 10 ^ k := by positivity
  have hcast : (0 : ℚ) < (scaledRatio m k).2 := Nat.cast_pos.mpr hden
  unfold value floorOn
  dsimp only
  rw [hvalue, mul_le_mul_iff_left₀ hpower, mul_lt_mul_iff_left₀ hpower, le_div_iff₀ hcast,
    div_lt_iff₀ hcast]
  exact ⟨by exact_mod_cast Nat.div_mul_le_self _ _,
    by exact_mod_cast (Nat.div_lt_iff_lt_mul hden).mp (Nat.lt_succ_self _)⟩

/-- A grid has something when one of the neighbours of the magnitude reads back, and that one
then does. -/
theorem onGrid_cases (f : BinaryFormat) (tie : Tie) (m : Magnitude) (point : ℤ) (n : ℕ) :
    (∃ d, onGrid f tie m point n = some d ∧ f.RoundsTo m d.value) ∨
      onGrid f tie m point n = none ∧
        ¬ f.RoundsTo m (⟨floorOn m (point - n), point - n⟩ : Decimal).value ∧
        ¬ f.RoundsTo m (⟨floorOn m (point - n) + 1, point - n⟩ : Decimal).value := by
  simp only [← readsBack_iff]
  unfold onGrid
  dsimp only
  rw [← scaledRatio.eq_1 m (point - n), ← floorOn.eq_1 m (point - n)]
  split
  next hlow hhigh => exact .inr ⟨rfl, by simp [hlow], by simp [hhigh]⟩
  next hlow _ => exact .inl ⟨_, rfl, hlow⟩
  next _ hhigh => exact .inl ⟨_, rfl, hhigh⟩
  next hlow hhigh =>
    exact .inl ⟨_, rfl, iteInduction (motive := fun c => readsBack f m c (point - n) = true)
      (fun _ => hhigh) (fun _ => hlow)⟩

/-- With seventeen digits one of the neighbours of a magnitude reads back: they are less than
the interval apart. -/
theorem onGrid_seventeen (tie : Tie) {point : ℤ} (hprecision : 2 ^ f.precision < 10 ^ 16)
    (hm : f.Holds m) (hpositive : 0 < m.significand)
    (hpoint : (10 : ℚ) ^ (point - 1) ≤ m.value) :
    ∃ d, onGrid f tie m point 17 = some d ∧ f.RoundsTo m d.value := by
  obtain hfound | ⟨_, hlow, hhigh⟩ := onGrid_cases f tie m point 17
  · exact hfound
  exfalso
  obtain ⟨hbelow, habove⟩ := value_floorOn m (point - (17 : ℕ))
  generalize floorOn m (point - (17 : ℕ)) = low at hlow hhigh hbelow habove
  have hstart := f.lowEnd_le_value m
  have hend : m.value < f.highEnd m := by
    rw [highEnd_eq]
    exact lt_add_of_pos_right _ (mul_pos two_pos m.quarterGap_pos)
  have hleft : (⟨low, point - (17 : ℕ)⟩ : Decimal).value ≤ f.lowEnd m := by
    by_contra hinside
    exact hlow (.of_inside (not_le.mp hinside) (hbelow.trans_lt hend))
  have hright : f.highEnd m ≤ (⟨low + 1, point - (17 : ℕ)⟩ : Decimal).value := by
    by_contra hinside
    exact hhigh (.of_inside (hstart.trans_lt habove) (not_le.mp hinside))
  -- so the neighbours are as far apart as the ends of the interval, and farther
  have hgrid : (10 : ℚ) ^ (point - 1) = 10 ^ 16 * 10 ^ (point - (17 : ℕ)) := by
    rw [← zpow_natCast, ← zpow_add₀ (by norm_num)]
    congr 1
    push_cast
    ring
  rw [hgrid] at hpoint
  unfold value at hbelow hleft hright
  rw [Nat.cast_succ, add_one_mul] at hright
  obtain hwidth | hwidth := unit_lt_width hprecision hm hpositive hpoint
  all_goals linarith

/-! ## The position of the point -/

theorem reaches_iff {num den : ℕ} (hden : 0 < den) (d : ℤ) :
    (if 0 ≤ d then decide (den * Nat.pow 10 d.toNat ≤ num)
      else decide (den ≤ num * Nat.pow 10 (-d).toNat)) = true ↔
      (10 : ℚ) ^ d ≤ (num : ℚ) / den := by
  have hcast : (0 : ℚ) < den := Nat.cast_pos.mpr hden
  rw [le_div_iff₀ hcast]
  split
  next hd =>
    obtain ⟨n, rfl⟩ := Int.eq_ofNat_of_zero_le hd
    rw [decide_eq_true_iff, Int.toNat_natCast, Nat.pow_eq, zpow_natCast, mul_comm]
    exact_mod_cast Iff.rfl
  next hd =>
    obtain ⟨n, hn⟩ := Int.eq_ofNat_of_zero_le (show 0 ≤ -d by omega)
    obtain rfl : d = -(n : ℤ) := by omega
    rw [decide_eq_true_iff, neg_neg, Int.toNat_natCast, Nat.pow_eq, zpow_neg, zpow_natCast,
      inv_mul_le_iff₀ (by positivity), mul_comm]
    exact_mod_cast Iff.rfl

theorem ten_pow_estimate_le :
    ∀ n < 1100, 10 ^ (n * 30103 / 100000) ≤ 10 * 2 ^ n ∧
      2 ^ n ≤ 10 ^ ((n * 30103 + 99999) / 100000 + 1) := by
  decide +kernel

/-- The estimate of the point is never too great for the numbers in use. -/
theorem ten_zpow_estimate_le {bits : ℤ} (hlow : -1100 < bits) (hhigh : bits < 1100) :
    (10 : ℚ) ^ (bits * 30103 / 100000 - 1) ≤ 2 ^ bits := by
  obtain ⟨n, rfl | rfl⟩ := bits.eq_nat_or_neg
  · have hnat := (ten_pow_estimate_le n (by omega)).1
    have hexponent : (n : ℤ) * 30103 / 100000 = (n * 30103 / 100000 : ℕ) := by omega
    rw [hexponent, zpow_sub_one₀ (by norm_num), zpow_natCast, zpow_natCast, ← div_eq_mul_inv,
      div_le_iff₀' (by norm_num)]
    exact_mod_cast hnat
  · have hnat := (ten_pow_estimate_le n (by omega)).2
    have hexponent : -(n : ℤ) * 30103 / 100000 - 1 =
        -((n * 30103 + 99999) / 100000 + 1 : ℕ) := by omega
    rw [hexponent, zpow_neg, zpow_neg, zpow_natCast, zpow_natCast]
    exact inv_anti₀ (by positivity) (by exact_mod_cast hnat)

theorem two_zpow_le_div {num den : ℕ} (hnum : 0 < num) (hden : 0 < den) :
    (2 : ℚ) ^ ((num.log2 : ℤ) - den.log2 - 1) ≤ (num : ℚ) / den := by
  have hlow : 2 ^ num.log2 ≤ num := Nat.log2_self_le hnum.ne'
  have hhigh : den ≤ 2 ^ (den.log2 + 1) := Nat.lt_log2_self.le
  rw [sub_sub, zpow_sub₀ two_ne_zero, zpow_natCast]
  apply div_le_div₀ (Nat.cast_nonneg _) (by exact_mod_cast hlow) (Nat.cast_pos.mpr hden)
  exact_mod_cast hhigh

/-- The place in front of the point is not beyond the quotient. -/
theorem ten_zpow_pointPosition_le {num den : ℕ} (hnum : 0 < num) (hden : 0 < den)
    (hlow : -1100 < (num.log2 : ℤ) - den.log2 - 1)
    (hhigh : (num.log2 : ℤ) - den.log2 - 1 < 1100) :
    (10 : ℚ) ^ (pointPosition num den - 1) ≤ (num : ℚ) / den := by
  have hestimate := (ten_zpow_estimate_le hlow hhigh).trans (two_zpow_le_div hnum hden)
  unfold pointPosition
  simp only [reaches_iff hden]
  split
  next hreaches => rwa [add_sub_assoc]
  next =>
    split
    next hreaches => rwa [add_sub_cancel_right]
    next => exact hestimate

/-! ## The shortest decimal -/

/-- The search over grids ends with a decimal that reads back when it comes to a grid that has
one. -/
theorem roundsTo_firstGrid {point : ℤ} {last : ℕ}
    (hlast : ∃ d, onGrid f tie m point last = some d ∧ f.RoundsTo m d.value) {count n : ℕ}
    (hreached : n ≤ last ∧ last < n + count) :
    f.RoundsTo m (firstGrid f tie m point count n).value := by
  induction count generalizing n with
  | zero => omega
  | succ count ih =>
    unfold firstGrid
    obtain ⟨d, hfound, hvalue⟩ | ⟨hnone, _, _⟩ := onGrid_cases f tie m point n
    · rwa [hfound]
    · rw [hnone]
      have hnext : n ≠ last := by
        rintro rfl
        obtain ⟨d, hfound, _⟩ := hlast
        cases hnone.symm.trans hfound
      exact ih (by omega)

theorem log2_ratio_lt (hwithin : f.WithinDouble) (hm : f.Holds m)
    (hpositive : m.significand ≠ 0) : m.ratio.1.log2 < 1024 ∧ m.ratio.2.log2 < 1075 := by
  have hsignificand : m.significand < 2 ^ 53 :=
    hm.significand_lt.trans_le (Nat.pow_le_pow_right (by norm_num) hwithin.precision_le)
  have hlow := hwithin.minExponent_ge.trans hm.minExponent_le
  have hhigh := hm.exponent_le.trans hwithin.maxExponent_le
  unfold Magnitude.ratio
  split
  next hexponent =>
    refine ⟨?_, show Nat.log2 1 < 1075 by decide⟩
    rw [Nat.shiftLeft_eq, Nat.log2_lt (by positivity)]
    calc m.significand * 2 ^ m.exponent.toNat
        < 2 ^ 53 * 2 ^ m.exponent.toNat :=
          Nat.mul_lt_mul_of_pos_right hsignificand (by positivity)
      _ = 2 ^ (53 + m.exponent.toNat) := (Nat.pow_add ..).symm
      _ ≤ 2 ^ 1024 := Nat.pow_le_pow_right (by norm_num) (by omega)
  next hexponent =>
    rw [Nat.shiftLeft_eq, Nat.one_mul, Nat.log2_two_pow]
    exact ⟨((Nat.log2_lt hpositive).mpr hsignificand).trans (by norm_num), by omega⟩

theorem roundsTo_zero (hzero : m.significand = 0) : f.RoundsTo m 0 := by
  have hgap : (halfGaps f m).1 = 0 := by
    have := halfGaps_fst f m
    omega
  unfold RoundsTo
  rw [if_pos (by rw [hzero]), lowEnd, hgap, Nat.cast_zero, zero_mul]
  refine ⟨le_rfl, ?_⟩
  unfold highEnd
  exact mul_nonneg (Nat.cast_nonneg _) m.quarterGap_pos.le

/-- The shortest decimal of a magnitude reads back. -/
theorem roundsTo_shortest (hwithin : f.WithinDouble) (tie : Tie) (hm : f.Holds m) :
    f.RoundsTo m (shortest f tie m).value := by
  unfold shortest
  split
  next hzero => simpa [value] using roundsTo_zero hzero
  next hpositive =>
    have hprecision : 2 ^ f.precision < 10 ^ 16 :=
      (Nat.pow_le_pow_right (by norm_num) hwithin.precision_le).trans_lt (by norm_num)
    have hpoint : (10 : ℚ) ^ (pointPosition m.ratio.1 m.ratio.2 - 1) ≤ m.value := by
      obtain ⟨hnum, hden⟩ := log2_ratio_lt hwithin hm hpositive
      rw [m.value_eq_ratio]
      exact ten_zpow_pointPosition_le (m.ratio_fst_pos hpositive)
        (Nat.pos_of_ne_zero m.ratio_snd_ne_zero) (by omega) (by omega)
    have hfound : f.RoundsTo m
        (firstGrid f tie m (pointPosition m.ratio.1 m.ratio.2) 17 1).value :=
      roundsTo_firstGrid
        (onGrid_seventeen tie hprecision hm (Nat.pos_of_ne_zero hpositive) hpoint) (by omega)
    dsimp only
    split
    next hten =>
      convert hfound using 1
      rw [value, value, hten, zpow_add_one₀ (by norm_num)]
      push_cast
      ring
    next => exact hfound

end Decimal

end SlideDeck
