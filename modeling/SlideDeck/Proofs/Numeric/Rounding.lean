import Mathlib.Algebra.Order.Field.Power
import Mathlib.Tactic.Linarith
import Mathlib.Tactic.Positivity
import Mathlib.Tactic.Ring
import SlideDeck.Numeric.Decimal
import SlideDeck.Proofs.Numeric.Binary64

/-!
# Rounding intervals

The reals that round to a magnitude make up an interval around it. The intervals of different
magnitudes of a format have nothing in common: neighbours share an end at most, and it belongs
to the one with the even significand. So whatever rounds to a magnitude tells it from all others.
-/

namespace SlideDeck

/-- A quarter of the unit in the last place. -/
def Magnitude.quarterGap (m : Magnitude) : ℚ := 2 ^ (m.exponent - 2)

theorem Magnitude.quarterGap_pos (m : Magnitude) : 0 < m.quarterGap := by
  unfold quarterGap
  positivity

theorem Magnitude.value_eq_quarterGap (m : Magnitude) :
    m.value = m.significand * (4 * m.quarterGap) := by
  rw [value, quarterGap, zpow_sub₀ two_ne_zero]
  ring

namespace BinaryFormat

variable {f : BinaryFormat} {m other : Magnitude} {q : ℚ}

/-- A magnitude of a format. Its significand is short only at the least exponent. -/
structure Holds (f : BinaryFormat) (m : Magnitude) : Prop where
  significand_lt : m.significand < 2 ^ f.precision
  minExponent_le : f.minExponent ≤ m.exponent
  exponent_le : m.exponent ≤ f.maxExponent
  normal : m.exponent = f.minExponent ∨ 2 ^ (f.precision - 1) ≤ m.significand

/-- The precision and the exponents of a format are at most those of doubles. -/
structure WithinDouble (f : BinaryFormat) : Prop where
  precision_le : f.precision ≤ 53
  minExponent_ge : -1074 ≤ f.minExponent
  maxExponent_le : f.maxExponent ≤ 971

/-- The lower end of the reals that round to a magnitude. -/
def lowEnd (f : BinaryFormat) (m : Magnitude) : ℚ := (Decimal.halfGaps f m).1 * m.quarterGap

/-- The upper end of the reals that round to a magnitude. -/
def highEnd (f : BinaryFormat) (m : Magnitude) : ℚ := (Decimal.halfGaps f m).2 * m.quarterGap

/-- A real rounds to a magnitude; the ends do when the significand is even. -/
def RoundsTo (f : BinaryFormat) (m : Magnitude) (q : ℚ) : Prop :=
  if m.significand % 2 = 0 then f.lowEnd m ≤ q ∧ q ≤ f.highEnd m
  else f.lowEnd m < q ∧ q < f.highEnd m

theorem RoundsTo.ends (h : f.RoundsTo m q) : f.lowEnd m ≤ q ∧ q ≤ f.highEnd m := by
  unfold RoundsTo at h
  split at h
  next => exact h
  next => exact ⟨h.1.le, h.2.le⟩

theorem RoundsTo.inside (h : f.RoundsTo m q) (hodd : m.significand % 2 = 1) :
    f.lowEnd m < q ∧ q < f.highEnd m := by
  unfold RoundsTo at h
  rwa [if_neg (by omega)] at h

theorem RoundsTo.of_inside (hlow : f.lowEnd m < q) (hhigh : q < f.highEnd m) :
    f.RoundsTo m q := by
  unfold RoundsTo
  split
  next => exact ⟨hlow.le, hhigh.le⟩
  next => exact ⟨hlow, hhigh⟩

theorem halfGaps_snd (f : BinaryFormat) (m : Magnitude) :
    (Decimal.halfGaps f m).2 = 4 * m.significand + 2 := by
  unfold Decimal.halfGaps
  split <;> rfl

/-- The lower end is half a gap below a magnitude, or a quarter where the gap below is the
smaller one. -/
theorem halfGaps_fst (f : BinaryFormat) (m : Magnitude) :
    (Decimal.halfGaps f m).1 = 4 * m.significand - 2 ∨
      (Decimal.halfGaps f m).1 = 4 * m.significand - 1 ∧
        m.significand = 2 ^ (f.precision - 1) := by
  unfold Decimal.halfGaps
  split
  next h => exact .inr ⟨rfl, by simpa [Nat.shiftLeft_eq] using h.1⟩
  next => exact .inl rfl

/-- Above the least exponent, no interval starts below the least significand's one. -/
theorem le_halfGaps_fst (h : f.Holds m) (hexponent : f.minExponent < m.exponent) :
    4 * 2 ^ (f.precision - 1) - 1 ≤ (Decimal.halfGaps f m).1 := by
  have hleast : 2 ^ (f.precision - 1) ≤ m.significand := h.normal.resolve_left (by omega)
  unfold Decimal.halfGaps
  rw [Nat.shiftLeft_eq, Nat.one_mul]
  split
  next => omega
  next hboundary =>
    have : m.significand ≠ 2 ^ (f.precision - 1) := fun heq => hboundary ⟨heq, hexponent⟩
    omega

/-! ## Different magnitudes -/

/-- The interval of a magnitude ends at or before the start of one with a greater exponent, and
where they share an end, the lower magnitude is odd. -/
theorem highEnd_le_lowEnd_of_exponent (hprecision : 0 < f.precision) (hm : f.Holds m)
    (hother : f.Holds other) (hlt : m.exponent < other.exponent) :
    f.highEnd m ≤ f.lowEnd other ∧
      (f.highEnd m = f.lowEnd other → m.significand % 2 = 1) := by
  have hleast := le_halfGaps_fst hother (by have := hm.minExponent_le; omega)
  have htop : 2 * 2 ^ (f.precision - 1) = 2 ^ f.precision := by
    rw [← Nat.pow_succ', Nat.succ_eq_add_one, Nat.sub_add_cancel hprecision]
  have hgreatest := hm.significand_lt
  have hcount : 4 * m.significand + 2 ≤ 2 * (Decimal.halfGaps f other).1 := by omega
  have hscaled : ((4 * m.significand + 2 : ℕ) : ℚ) * m.quarterGap ≤
      (2 * (Decimal.halfGaps f other).1 : ℕ) * m.quarterGap :=
    mul_le_mul_of_nonneg_right (by exact_mod_cast hcount) m.quarterGap_pos.le
  -- the unit of the greater exponent is at least twice as wide
  have hdouble : 2 * m.quarterGap ≤ other.quarterGap := by
    unfold Magnitude.quarterGap
    rw [← zpow_one_add₀ two_ne_zero]
    exact zpow_le_zpow_right₀ one_le_two (by omega)
  have hwide : ((2 * (Decimal.halfGaps f other).1 : ℕ) : ℚ) * m.quarterGap ≤
      (Decimal.halfGaps f other).1 * other.quarterGap := by
    push_cast
    rw [mul_comm 2, mul_assoc]
    exact mul_le_mul_of_nonneg_left hdouble (Nat.cast_nonneg _)
  unfold highEnd lowEnd
  rw [halfGaps_snd]
  refine ⟨hscaled.trans hwide, fun heq => ?_⟩
  have hcast := mul_right_cancel₀ m.quarterGap_pos.ne' (le_antisymm hscaled (heq ▸ hwide))
  have hsame : 4 * m.significand + 2 = 2 * (Decimal.halfGaps f other).1 := by
    exact_mod_cast hcast
  omega

/-- With one exponent, the intervals follow each other in the order of the significands. -/
theorem highEnd_le_lowEnd_of_significand (hexponent : m.exponent = other.exponent)
    (hlt : m.significand < other.significand) :
    f.highEnd m ≤ f.lowEnd other ∧
      (f.highEnd m = f.lowEnd other →
        m.significand % 2 = 1 ∨ other.significand % 2 = 1) := by
  have hfst := halfGaps_fst f other
  have hcount : 4 * m.significand + 2 ≤ (Decimal.halfGaps f other).1 := by omega
  have hgap : m.quarterGap = other.quarterGap := by rw [Magnitude.quarterGap, hexponent]; rfl
  unfold highEnd lowEnd
  rw [halfGaps_snd, hgap]
  refine ⟨mul_le_mul_of_nonneg_right (by exact_mod_cast hcount) other.quarterGap_pos.le,
    fun heq => ?_⟩
  have hcast := mul_right_cancel₀ other.quarterGap_pos.ne' heq
  have hsame : 4 * m.significand + 2 = (Decimal.halfGaps f other).1 := by exact_mod_cast hcast
  omega

/-- No real rounds to a magnitude and to a greater one. -/
theorem not_lt_of_roundsTo (hprecision : 0 < f.precision) (hm : f.Holds m)
    (hother : f.Holds other) (h : f.RoundsTo m q) (h' : f.RoundsTo other q) :
    ¬ (m.exponent < other.exponent ∨
      m.exponent = other.exponent ∧ m.significand < other.significand) := by
  intro hlt
  have hends : f.highEnd m ≤ f.lowEnd other ∧ (f.highEnd m = f.lowEnd other →
      m.significand % 2 = 1 ∨ other.significand % 2 = 1) := by
    obtain hexponent | ⟨hexponent, hsignificand⟩ := hlt
    · exact (highEnd_le_lowEnd_of_exponent hprecision hm hother hexponent).imp_right
        fun hshared heq => .inl (hshared heq)
    · exact highEnd_le_lowEnd_of_significand hexponent hsignificand
  obtain ⟨hle, hshared⟩ := hends
  have hhigh := h.ends.2
  have hlow := h'.ends.1
  obtain hodd | hodd := hshared (le_antisymm hle (hlow.trans hhigh))
  · exact absurd (h.inside hodd).2 (not_lt.mpr (hle.trans hlow))
  · exact absurd (h'.inside hodd).1 (not_lt.mpr (hhigh.trans hle))

/-- A real rounds to one magnitude of a format. -/
theorem RoundsTo.unique (hprecision : 0 < f.precision) (hm : f.Holds m)
    (hother : f.Holds other) (h : f.RoundsTo m q) (h' : f.RoundsTo other q) : m = other := by
  have hforward := not_lt_of_roundsTo hprecision hm hother h h'
  have hbackward := not_lt_of_roundsTo hprecision hother hm h' h
  obtain ⟨s, e⟩ := m
  obtain ⟨s', e'⟩ := other
  dsimp only at hforward hbackward
  obtain rfl : e = e' := by omega
  obtain rfl : s = s' := by omega
  rfl

/-! ## The width of an interval -/

theorem highEnd_eq (f : BinaryFormat) (m : Magnitude) :
    f.highEnd m = m.value + 2 * m.quarterGap := by
  rw [m.value_eq_quarterGap, highEnd, halfGaps_snd]
  push_cast
  ring

theorem lowEnd_le_value (f : BinaryFormat) (m : Magnitude) : f.lowEnd m ≤ m.value := by
  rw [m.value_eq_quarterGap, lowEnd, ← mul_assoc]
  refine mul_le_mul_of_nonneg_right ?_ m.quarterGap_pos.le
  rw [mul_comm]
  have := halfGaps_fst f m
  exact_mod_cast (by omega : (Decimal.halfGaps f m).1 ≤ 4 * m.significand)

/-- A unit that is small next to a magnitude is smaller than the interval, or than its upper half
where the lower one is cut short. -/
theorem unit_lt_width {unit : ℚ} (hprecision : 2 ^ f.precision < 10 ^ 16) (hm : f.Holds m)
    (hpositive : 0 < m.significand) (hunit : 10 ^ 16 * unit ≤ m.value) :
    unit < f.highEnd m - f.lowEnd m ∨ unit < f.highEnd m - m.value := by
  have hgap := m.quarterGap_pos
  rw [m.value_eq_quarterGap] at hunit
  obtain hfst | ⟨_, hboundary⟩ := halfGaps_fst f m
  · left
    have hcount : (m.significand : ℚ) < 10 ^ 16 := by
      exact_mod_cast hm.significand_lt.trans hprecision
    have hscaled := mul_lt_mul_of_pos_right hcount (mul_pos four_pos hgap)
    have hlowEnd : f.lowEnd m = m.value - 2 * m.quarterGap := by
      rw [m.value_eq_quarterGap, lowEnd, hfst, Nat.cast_sub (by omega)]
      push_cast
      ring
    rw [highEnd_eq, hlowEnd]
    linarith
  · right
    have hhalf : 2 * m.significand ≤ 2 ^ f.precision := by
      have := hm.significand_lt
      obtain hzero | hsucc := Nat.eq_zero_or_pos f.precision
      · rw [hzero] at this
        omega
      · rw [hboundary, ← Nat.pow_succ', Nat.succ_eq_add_one, Nat.sub_add_cancel hsucc]
    have hcount : (2 * m.significand : ℚ) < 10 ^ 16 := by
      exact_mod_cast hhalf.trans_lt hprecision
    have hscaled := mul_lt_mul_of_pos_right hcount (mul_pos two_pos hgap)
    rw [highEnd_eq]
    linarith

end BinaryFormat

end SlideDeck
