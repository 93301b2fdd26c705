import Mathlib.Algebra.Order.Field.Rat
import SlideDeck.Json.Basic

/-!
# Finite doubles

The numbers of JSON are finite: a double is checked when it becomes one, and the double
nearest to an integer of 64 bits is nowhere near the greatest double. Compared with zero a
finite double is below, equal or above, so what is not below zero is at least zero.
-/

namespace SlideDeck

namespace Magnitude

/-- The exact value of a magnitude. -/
def value (m : Magnitude) : ℚ := m.significand * 2 ^ m.exponent

theorem ratio_snd_ne_zero (m : Magnitude) : m.ratio.2 ≠ 0 := by
  unfold ratio
  split
  next => exact Nat.one_ne_zero
  next => simp [Nat.shiftLeft_eq]

theorem value_eq_ratio (m : Magnitude) : m.value = (m.ratio.1 : ℚ) / m.ratio.2 := by
  obtain ⟨significand, exponent⟩ := m
  unfold value ratio
  dsimp only
  split
  next hexponent =>
    obtain ⟨n, rfl⟩ := Int.eq_ofNat_of_zero_le hexponent
    simp [Nat.shiftLeft_eq]
  next hexponent =>
    obtain ⟨n, hn⟩ := Int.eq_ofNat_of_zero_le (show 0 ≤ -exponent by omega)
    obtain rfl : exponent = -(n : Int) := by omega
    simp [Nat.shiftLeft_eq, div_eq_mul_inv]

/-- A magnitude is whole when its value is a natural number. -/
theorem isWhole_iff {m : Magnitude} : m.isWhole = true ↔ ∃ k : ℕ, m.value = k := by
  have hden : (m.ratio.2 : ℚ) ≠ 0 := Nat.cast_ne_zero.mpr m.ratio_snd_ne_zero
  unfold isWhole
  rw [beq_iff_eq, ← Nat.dvd_iff_mod_eq_zero, value_eq_ratio]
  constructor
  · rintro ⟨k, hk⟩
    refine ⟨k, ?_⟩
    rw [hk, Nat.cast_mul, mul_comm, mul_div_assoc, div_self hden, mul_one]
  · rintro ⟨k, hk⟩
    rw [div_eq_iff hden] at hk
    exact ⟨k, by rw [Nat.mul_comm]; exact_mod_cast hk⟩

end Magnitude

namespace Binary64

open Float.Model (Format UnpackedFloat)
open Float.Model.UnpackedFloat (Sign unpackExponent unpackMantissa unpackExponent_packComponents)

/-! ## Words of finite doubles -/

/-- A zero, or a number with an exponent that a finite double can have. -/
def IsStorable : UnpackedFloat → Prop
  | .zero _ => True
  | .finite _ _ e _ => e ≤ 971
  | _ => False

/-- A word whose exponent field is not the greatest one stands for such a number. -/
theorem isStorable_unpack {b : BitVec Format.binary64.numBits} (h : unpackExponent b ≠ -1#_) :
    IsStorable (UnpackedFloat.unpack Format.binary64 b) := by
  have hbias : (Format.binary64.exponentBias : Int) = 1023 := rfl
  have hbits : (Format.binary64.mantissaBitsWithoutImplicit : Int) = 52 := rfl
  have hexponents : (2 : Nat) ^ Format.binary64.exponentBits = 2048 := rfl
  have hfield : (unpackExponent b).toNat ≠ 2047 := fun heq => h (BitVec.eq_of_toNat_eq heq)
  have hwidth := (unpackExponent b).isLt
  unfold UnpackedFloat.unpack
  dsimp only
  rw [if_neg h]
  by_cases hsmall : unpackExponent b = 0#_
  · rw [if_pos hsmall]
    by_cases hzero : unpackMantissa b = 0#_
    · rw [dif_pos hzero]
      exact trivial
    · rw [dif_neg hzero, hsmall]
      change _ ≤ (971 : Int)
      decide
  · rw [if_neg hsmall]
    change _ ≤ (971 : Int)
    omega

theorem IsStorable.isFinite {x : UnpackedFloat} (h : IsStorable x) : x.isFinite = true := by
  cases x with
  | notANumber | infinity _ => cases h
  | zero _ | finite _ _ _ _ => rfl

theorem unpackExponent_pack_finite {sign : Sign} {m : Nat} {e : Int} (hm : 0 < m)
    (he : e ≤ 971) :
    unpackExponent (UnpackedFloat.pack Format.binary64 (.finite sign m e hm)) ≠ -1#_ := by
  have hbits : (2 : Nat) ^ Format.binary64.exponentBits = 2048 := rfl
  have hbias : (Format.binary64.exponentBias : Int) = 1023 := rfl
  unfold UnpackedFloat.pack
  dsimp only
  rw [if_neg (by omega)]
  split
  next =>
    rw [unpackExponent_packComponents]
    intro hfield
    have hnat := congrArg BitVec.toNat hfield
    rw [BitVec.toNat_ofNat] at hnat
    change _ = 2047 at hnat
    rw [hbits] at hnat
    omega
  next =>
    rw [unpackExponent_packComponents]
    decide

theorem unpackExponent_pack_zero (sign : Sign) :
    unpackExponent (UnpackedFloat.pack Format.binary64 (.zero sign)) ≠ -1#_ := by
  cases sign <;> decide

theorem IsStorable.unpackExponent_pack {x : UnpackedFloat} (h : IsStorable x) :
    unpackExponent (UnpackedFloat.pack Format.binary64 x) ≠ -1#_ := by
  cases x with
  | notANumber | infinity _ => cases h
  | zero sign => exact unpackExponent_pack_zero sign
  | finite sign m e hm => exact unpackExponent_pack_finite hm h

theorem unpackExponent_ne {word : UInt64} (h : word.toNat / binade % 2048 ≠ 2047) :
    @unpackExponent Format.binary64 word.toBitVec ≠ -1#_ := by
  intro heq
  apply h
  have hnat := congrArg BitVec.toNat heq
  change _ = 2047 at hnat
  rw [← hnat]
  simp [binade, unpackExponent, BitVec.extractLsb_toNat, Nat.shiftRight_eq_div_pow]

theorem isFinite_ofBits {word : UInt64} (h : word.toNat / binade % 2048 ≠ 2047) :
    (Float.ofBits word).isFinite = true :=
  -- a double that is made of bits has been read and written again
  (isStorable_unpack (isStorable_unpack (unpackExponent_ne h)).unpackExponent_pack).isFinite

theorem isFinite_ofMagnitude (negative : Bool) {m : Magnitude} (h : m.exponent ≤ 971) :
    (ofMagnitude negative m).isFinite = true := by
  unfold ofMagnitude
  dsimp only
  apply isFinite_ofBits
  rw [UInt64.toNat_ofNat']
  generalize hfield : (if m.significand < binade then 0 else (m.exponent + 1075).toNat) = field
  have hless : field ≤ 2046 := by
    rw [← hfield]
    split <;> omega
  have hfraction : m.significand % binade < binade := Nat.mod_lt _ (by decide)
  cases negative
  all_goals
    simp only [binade, Bool.false_eq_true, if_true, if_false] at hfraction ⊢
    omega

/-! ## Integers -/

/-- The double nearest to a natural number below `2 ^ 65` has a small exponent. -/
theorem exists_round_ofNat {n : Nat} (h : n < 2 ^ 65) :
    ∃ m, BinaryFormat.double.round n 1 = some m ∧ m.exponent ≤ 971 := by
  unfold BinaryFormat.round
  dsimp only
  split
  next => exact ⟨_, rfl, by decide⟩
  next hn =>
    have hlog : n.log2 < 65 := (Nat.log2_lt hn).mpr h
    have hunit : BinaryFormat.double.unitExponent n 1 ≤ 12 := by
      have hone : Nat.log2 1 = 0 := rfl
      unfold BinaryFormat.unitExponent
      apply max_le
      · split <;> dsimp only [BinaryFormat.double] <;> omega
      · decide
    -- rounding up to a power of two adds one to the exponent at most
    refine ⟨_, if_neg ?_, ?_⟩
    · rw [Int.not_lt]
      split
      all_goals
        dsimp only [BinaryFormat.double] at hunit ⊢
        omega
    · split
      all_goals
        dsimp only at hunit ⊢
        omega

theorem isFinite_ofInt {n : Int}
    (h : -0x8000000000000000 ≤ n ∧ n < 0x10000000000000000) : (ofInt n).isFinite = true := by
  obtain ⟨m, hround, hexponent⟩ := exists_round_ofNat (n := n.natAbs) (by omega)
  unfold ofInt ofRatio
  rw [hround]
  exact isFinite_ofMagnitude _ hexponent

/-! ## Comparison with zero -/

theorem lt_iff {x y : Float} : x < y ↔ x.toModel.unpack.lt y.toModel.unpack = true :=
  decide_eq_true_iff

theorem le_iff {x y : Float} : x ≤ y ↔ x.toModel.unpack.le y.toModel.unpack = true :=
  decide_eq_true_iff

/-- A finite double is below zero, a zero or above zero. -/
theorem compare_zero {x : Float} (hfinite : x.isFinite = true) :
    ∃ o : Ordering, (x < 0 ↔ o = .lt) ∧ (x ≤ 0 ↔ o.isLE = true) ∧
      (0 ≤ x ↔ o.isGE = true) ∧ (0 < x ↔ o = .gt) := by
  have hzero : (0 : Float).toModel.unpack = .zero .positive := rfl
  have hunpacked : x.toModel.unpack.isFinite = true := hfinite
  simp only [lt_iff, le_iff, hzero, UnpackedFloat.lt, UnpackedFloat.le]
  cases hx : x.toModel.unpack with
  | notANumber | infinity _ =>
      rw [hx] at hunpacked
      cases hunpacked
  | zero _ =>
      exact ⟨.eq, iff_of_false Bool.false_ne_true (by decide), iff_of_true rfl rfl,
        iff_of_true rfl rfl, iff_of_false Bool.false_ne_true (by decide)⟩
  | finite sign m e hm =>
      cases sign with
      | negative =>
          exact ⟨.lt, iff_of_true rfl rfl, iff_of_true rfl rfl,
            iff_of_false Bool.false_ne_true (by decide),
            iff_of_false Bool.false_ne_true (by decide)⟩
      | positive =>
          exact ⟨.gt, iff_of_false Bool.false_ne_true (by decide),
            iff_of_false Bool.false_ne_true (by decide), iff_of_true rfl rfl,
            iff_of_true rfl rfl⟩

variable {x : Float}

theorem zero_le_of_not_lt (hfinite : x.isFinite = true) (h : ¬ x < 0) : 0 ≤ x := by
  obtain ⟨o, hbelow, _, habove, _⟩ := compare_zero hfinite
  rw [habove]
  rw [hbelow] at h
  cases o <;> simp_all

theorem zero_lt_of_not_le (hfinite : x.isFinite = true) (h : ¬ x ≤ 0) : 0 < x := by
  obtain ⟨o, _, hatMost, _, habove⟩ := compare_zero hfinite
  rw [habove]
  rw [hatMost] at h
  cases o <;> simp_all

/-- The greater of a finite double and zero is finite and not below zero. -/
theorem greatest_zero (hfinite : x.isFinite = true) :
    (greatest x 0).isFinite = true ∧ 0 ≤ greatest x 0 := by
  unfold greatest
  split
  next hpositive =>
    obtain ⟨o, _, _, hatLeast, habove⟩ := compare_zero hfinite
    rw [habove] at hpositive
    exact ⟨hfinite, hatLeast.mpr (by rw [hpositive]; rfl)⟩
  next => exact ⟨rfl, rfl⟩

/-- A double above zero is infinite or finite with a positive sign. -/
theorem unpack_of_zero_lt (h : 0 < x) :
    x.toModel.unpack = .infinity .positive ∨
      ∃ m e hm, x.toModel.unpack = .finite .positive m e hm := by
  have hzero : (0 : Float).toModel.unpack = .zero .positive := rfl
  rw [lt_iff, hzero] at h
  generalize x.toModel.unpack = u at h ⊢
  cases u with
  | notANumber | zero _ => cases h
  | infinity sign =>
      cases sign with
      | negative => cases h
      | positive => exact .inl rfl
  | finite sign m e hm =>
      cases sign with
      | negative => cases h
      | positive => exact .inr ⟨m, e, hm, rfl⟩

theorem beq_zero_of_zero_lt (h : 0 < x) : (x == 0) = false := by
  have hbeq : (x == 0) = x.toModel.unpack.beq (.zero .positive) := rfl
  rw [hbeq]
  obtain hx | ⟨m, e, hm, hx⟩ := unpack_of_zero_lt h
  · rw [hx]
    rfl
  · rw [hx]
    rfl

theorem lt_of_le_zero {y : Float} (hx : x ≤ 0) (hy : 0 < y) : x < y := by
  have hzero : (0 : Float).toModel.unpack = .zero .positive := rfl
  rw [le_iff, hzero] at hx
  rw [lt_iff]
  generalize x.toModel.unpack = u at hx ⊢
  obtain hy | ⟨m, e, hm, hy⟩ := unpack_of_zero_lt hy
  all_goals
    rw [hy]
    cases u with
    | notANumber => cases hx
    | zero _ => rfl
    | infinity sign | finite sign _ _ _ =>
        cases sign with
        | negative => rfl
        | positive => cases hx

/-- The greater of two doubles is above zero when the first one is and the second is finite. -/
theorem zero_lt_greatest {y : Float} (hx : 0 < x) (hy : y.isFinite = true) :
    0 < greatest x y := by
  unfold greatest
  split
  next => exact hx
  next hless =>
    apply zero_lt_of_not_le hy
    intro hatMost
    exact hless (lt_of_le_zero hatMost hx)

end Binary64

/-- Every number of JSON is a finite double. -/
theorem Json.Number.isFinite_toFloat (n : Json.Number) : n.toFloat.isFinite = true := by
  cases n with
  | integer _ fits => exact Binary64.isFinite_ofInt fits
  | double _ finite => exact finite

end SlideDeck
