import SlideDeck.Proofs.Numeric.Binary64

/-!
# Signs of doubles

A double that is read from bits has the sign of its highest bit, zeros and infinities too. So a
quotient that is rounded to a double is on the side of its sign, or a zero: a quotient may be too
small for any other double.
-/

namespace SlideDeck.Binary64

open Float.Model (Format UnpackedFloat)
open Float.Model.UnpackedFloat (Sign packComponents unpackExponent unpackMantissa unpackSign)

/-- A finite number or an infinity of a sign. -/
def HasSign (sign : Sign) : UnpackedFloat → Prop
  | .infinity s | .zero s | .finite s _ _ _ => s = sign
  | .notANumber => False

/-! ## Bits -/

/-- The sign of a word is its highest bit. -/
theorem unpackSign_eq {f : Format} (b : BitVec f.numBits) : unpackSign b =
    (b.extractLsb (f.mantissaBitsWithoutImplicit + f.exponentBits)
      (f.mantissaBitsWithoutImplicit + f.exponentBits)).cast (by omega) := rfl

theorem ofBitVec_packComponents {f : Format} (sign : Sign) (exponent : BitVec f.exponentBits)
    (mantissa : BitVec f.mantissaBitsWithoutImplicit) :
    Sign.ofBitVec (unpackSign (packComponents f sign exponent mantissa)) = sign := by
  have hbits : unpackSign (packComponents f sign exponent mantissa) = sign.toBitVec := by
    ext i hi
    obtain rfl : i = 0 := by omega
    rw [unpackSign_eq]
    simp [packComponents, BitVec.getLsbD_append, BitVec.getElem_append]
  rw [hbits]
  cases sign <;> rfl

/-- A word whose exponent field is not the greatest one stands for a number of its sign. -/
theorem hasSign_unpack {b : BitVec Format.binary64.numBits} (h : unpackExponent b ≠ -1#_) :
    HasSign (.ofBitVec (unpackSign b)) (UnpackedFloat.unpack Format.binary64 b) := by
  unfold UnpackedFloat.unpack
  dsimp only
  rw [if_neg h]
  by_cases hsmall : unpackExponent b = 0#_
  · rw [if_pos hsmall]
    by_cases hzero : unpackMantissa b = 0#_
    · rw [dif_pos hzero]
      exact rfl
    · rw [dif_neg hzero]
      exact rfl
  · rw [if_neg hsmall]
    exact rfl

/-- A number keeps its sign when it is written. -/
theorem HasSign.pack {sign : Sign} {x : UnpackedFloat} (h : HasSign sign x)
    (hstorable : IsStorable x) :
    Sign.ofBitVec (unpackSign (UnpackedFloat.pack Format.binary64 x)) = sign := by
  have hbits : (2 : Nat) ^ Format.binary64.exponentBits = 2048 := rfl
  have hbias : (Format.binary64.exponentBias : Int) = 1023 := rfl
  cases x with
  | notANumber | infinity _ => cases hstorable
  | zero s =>
      obtain rfl : s = sign := h
      exact ofBitVec_packComponents ..
  | finite s m e hm =>
      obtain rfl : s = sign := h
      have hexponent : e ≤ 971 := hstorable
      unfold UnpackedFloat.pack
      dsimp only
      rw [if_neg (by omega)]
      split
      next => exact ofBitVec_packComponents ..
      next => exact ofBitVec_packComponents ..

theorem ofBitVec_unpackSign (word : UInt64) :
    Sign.ofBitVec (@unpackSign Format.binary64 word.toBitVec) =
      if word.toNat / 0x8000000000000000 % 2 = 1 then .negative else .positive := by
  have hbit : (@unpackSign Format.binary64 word.toBitVec).toNat =
      word.toNat / 0x8000000000000000 % 2 := by
    rw [unpackSign_eq]
    simp [BitVec.extractLsb_toNat, Nat.shiftRight_eq_div_pow]
  rw [← hbit]
  generalize @unpackSign Format.binary64 word.toBitVec = bit
  obtain rfl | rfl : bit = 0#1 ∨ bit = 1#1 := BitVec.eq_zero_or_eq_one bit
  · rfl
  · rfl

theorem hasSign_ofBits {word : UInt64} (h : word.toNat / binade % 2048 ≠ 2047) :
    HasSign (if word.toNat / 0x8000000000000000 % 2 = 1 then .negative else .positive)
      (Float.ofBits word).toModel.unpack := by
  have hread := isStorable_unpack (unpackExponent_ne h)
  rw [← ofBitVec_unpackSign, ← (hasSign_unpack (unpackExponent_ne h)).pack hread]
  -- a double that is made of bits has been read and written again
  exact hasSign_unpack hread.unpackExponent_pack

/-! ## Rounded quotients -/

/-- The sign that a minus stands for, or none. -/
def signOf (negative : Bool) : Sign := if negative then .negative else .positive

theorem hasSign_ofMagnitude (negative : Bool) {m : Magnitude} (h : m.exponent ≤ 971) :
    HasSign (signOf negative) (ofMagnitude negative m).toModel.unpack := by
  unfold ofMagnitude
  dsimp only
  generalize hfield : (if m.significand < binade then 0 else (m.exponent + 1075).toNat) = field
  have hless : field ≤ 2046 := by
    rw [← hfield]
    split <;> omega
  have hfraction : m.significand % binade < binade := Nat.mod_lt _ (by decide)
  generalize m.significand % binade = fraction at hfraction ⊢
  cases negative with
  | false =>
      have hsign := @hasSign_ofBits (UInt64.ofNat (field * binade + fraction))
      rw [UInt64.toNat_ofNat'] at hsign
      have hpositive : ¬ (field * binade + fraction) % 2 ^ 64 / 0x8000000000000000 % 2 = 1 := by
        simp only [binade] at hfraction ⊢
        omega
      rw [if_neg hpositive] at hsign
      exact hsign (by simp only [binade] at hfraction ⊢; omega)
  | true =>
      have hsign := @hasSign_ofBits
        (UInt64.ofNat (0x8000000000000000 + (field * binade + fraction)))
      rw [UInt64.toNat_ofNat'] at hsign
      have hnegative : (0x8000000000000000 + (field * binade + fraction)) % 2 ^ 64 /
          0x8000000000000000 % 2 = 1 := by
        simp only [binade] at hfraction ⊢
        omega
      rw [if_pos hnegative] at hsign
      exact hsign (by simp only [binade] at hfraction ⊢; omega)

theorem hasSign_infinity (negative : Bool) :
    HasSign (signOf negative) (infinity negative).toModel.unpack := by
  cases negative <;> exact rfl

/-- A magnitude that a quotient is rounded to has an exponent of the format. -/
theorem exponent_le_of_round {f : BinaryFormat} {num den : Nat} {m : Magnitude}
    (hf : f.minExponent ≤ f.maxExponent) (h : f.round num den = some m) :
    m.exponent ≤ f.maxExponent := by
  unfold BinaryFormat.round at h
  split at h
  next =>
    obtain rfl := Option.some.inj h
    exact hf
  next =>
    obtain ⟨hless, hm⟩ := Option.ite_none_left_eq_some.mp h
    rw [← Option.some.inj hm]
    exact Int.not_lt.mp hless

/-- A rounded quotient has the sign of the quotient. -/
theorem hasSign_ofRatio (negative : Bool) (num den : Nat) :
    HasSign (signOf negative) (ofRatio negative num den).toModel.unpack := by
  unfold ofRatio
  split
  next m hround => exact hasSign_ofMagnitude negative (exponent_le_of_round (by decide) hround)
  next => exact hasSign_infinity negative

theorem hasSign_ofDecimal (negative : Bool) (coefficient : Nat) (exponent : Int) :
    HasSign (signOf negative) (ofDecimal negative coefficient exponent).toModel.unpack := by
  unfold ofDecimal
  split
  next => exact hasSign_ofRatio ..
  next => exact hasSign_ofRatio ..

/-! ## Comparison with zero -/

/-- A double with a sign is on the side of its sign, or a zero. -/
theorem compare_zero_of_hasSign {x : Float} {negative : Bool}
    (h : HasSign (signOf negative) x.toModel.unpack) :
    ∃ o : Ordering, o ≠ (if negative then .gt else .lt) ∧ (x < 0 ↔ o = .lt) ∧
      ((x == 0) = true ↔ o = .eq) ∧ (0 < x ↔ o = .gt) := by
  have hzero : (0 : Float).toModel.unpack = .zero .positive := rfl
  have hbeq : (x == 0) = x.toModel.unpack.beq (.zero .positive) := rfl
  simp only [lt_iff, hzero, hbeq, UnpackedFloat.lt]
  cases hx : x.toModel.unpack with
  | notANumber =>
      rw [hx] at h
      cases h
  | zero _ =>
      refine ⟨.eq, by cases negative <;> decide, ?_⟩
      exact ⟨iff_of_false Bool.false_ne_true (by decide), iff_of_true rfl rfl,
        iff_of_false Bool.false_ne_true (by decide)⟩
  | infinity s | finite s _ _ _ =>
      rw [hx] at h
      obtain rfl : s = signOf negative := h
      cases negative with
      | false =>
          exact ⟨.gt, by decide, iff_of_false Bool.false_ne_true (by decide),
            iff_of_false Bool.false_ne_true (by decide), iff_of_true rfl rfl⟩
      | true =>
          exact ⟨.lt, by decide, iff_of_true rfl rfl,
            iff_of_false Bool.false_ne_true (by decide),
            iff_of_false Bool.false_ne_true (by decide)⟩

end SlideDeck.Binary64
