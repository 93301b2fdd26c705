import SlideDeck.Json.Number
import SlideDeck.Proofs.Numeric.DecimalText

/-!
# Texts of JSON numbers

A number has a text of its own: an integer the digits, a double the shortest decimal that reads
back to it. The two kinds differ in a point or an exponent, which only doubles have, and the two
zeros of doubles differ in the sign.
-/

namespace SlideDeck

namespace Binary64

open Float.Model (Format UnpackedFloat)
open Float.Model.UnpackedFloat (unpackExponent)

variable {x y : Float}

/-- Infinities and NaNs have the greatest exponent field, and finite doubles have another. -/
theorem exponentField_ne (hfinite : x.isFinite = true) :
    x.toBits.toNat / binade % 2048 ≠ 2047 := by
  intro hfield
  have hexponent : @unpackExponent Format.binary64 x.toBits.toBitVec = -1#_ := by
    apply BitVec.eq_of_toNat_eq
    change _ = 2047
    rw [← hfield]
    simp [binade, unpackExponent, BitVec.extractLsb_toNat, Nat.shiftRight_eq_div_pow]
  have hunpacked : (UnpackedFloat.unpack Format.binary64 x.toBits.toBitVec).isFinite = true :=
    hfinite
  unfold UnpackedFloat.unpack at hunpacked
  dsimp only at hunpacked
  rw [if_pos hexponent] at hunpacked
  split at hunpacked <;> cases hunpacked

/-- The magnitude of a finite double is one of the format. -/
theorem holds_magnitude (hfinite : x.isFinite = true) :
    BinaryFormat.double.Holds (magnitude x) := by
  have hfield := exponentField_ne hfinite
  unfold magnitude BinaryFormat.double
  dsimp only
  have hfraction : x.toBits.toNat % binade < binade := Nat.mod_lt _ (by decide)
  have hwidth : x.toBits.toNat / binade % 2048 < 2048 := Nat.mod_lt _ (by decide)
  generalize x.toBits.toNat % binade = fraction at hfraction
  generalize x.toBits.toNat / binade % 2048 = field at hfield hwidth
  unfold binade at *
  split
  all_goals
    constructor
    all_goals
      dsimp only
      omega

theorem toBits_injective (h : x.toBits = y.toBits) : x = y := by
  obtain ⟨⟨_, _⟩⟩ := x
  obtain ⟨⟨_, _⟩⟩ := y
  have h : _ = _ := h
  subst h
  rfl

theorem isNegative_iff : isNegative x = true ↔ x.toBits.toNat / 2 ^ 63 = 1 := by
  have hshift : (x.toBits >>> 63).toNat = x.toBits.toNat / 2 ^ 63 := by
    rw [UInt64.toNat_shiftRight, Nat.shiftRight_eq_div_pow]
    rfl
  rw [isNegative, beq_iff_eq, ← UInt64.toNat_inj, hshift]
  rfl

/-- A double is its sign and its magnitude. -/
theorem eq_of_magnitude (hsign : isNegative x = isNegative y)
    (hmagnitude : magnitude x = magnitude y) : x = y := by
  apply toBits_injective
  apply UInt64.toNat_inj.mp
  rw [Bool.eq_iff_iff, isNegative_iff, isNegative_iff] at hsign
  have hx : x.toBits.toNat < 2 ^ 64 := x.toBits.toNat_lt
  have hy : y.toBits.toNat < 2 ^ 64 := y.toBits.toNat_lt
  unfold magnitude BinaryFormat.double binade at hmagnitude
  dsimp only at hmagnitude
  generalize x.toBits.toNat = first at *
  generalize y.toBits.toNat = second at *
  -- a significand below `2 ^ 52` has the exponent field zero, all others another one
  split at hmagnitude
  all_goals
    split at hmagnitude
    all_goals
      rw [Magnitude.mk.injEq] at hmagnitude
      omega

end Binary64

namespace Json.Number

open Text

variable {x y : Float} {a b : Number}

/-- A text that starts with a digit is told from one with a sign in front. -/
theorem signed_inj {p p' : Prop} [Decidable p] [Decidable p'] {text text' : List Char}
    (htext : StartsWithDigit text) (htext' : StartsWithDigit text')
    (h : (if p then '-' :: text else text) = if p' then '-' :: text' else text') :
    (p ↔ p') ∧ text = text' := by
  obtain ⟨first, rest, rfl, hfirst⟩ := htext
  obtain ⟨first', rest', rfl, hfirst'⟩ := htext'
  have hminus : first ≠ '-' := by
    rintro rfl
    exact absurd hfirst (by decide)
  have hminus' : first' ≠ '-' := by
    rintro rfl
    exact absurd hfirst' (by decide)
  split at h
  all_goals
    split at h
    all_goals
      simp_all [Ne.symm]

/-! ## Doubles -/

/-- The text of a double without its sign. -/
def doubleText (x : Float) : List Char :=
  let d := shortest x
  if d.coefficient = 0 then ['0', '.', '0']
  else if -5 ≤ d.leadingExponent ∧ d.leadingExponent < 16 then
    if 0 ≤ d.exponent then d.positional ++ ['.', '0'] else d.positional
  else d.scientific

theorem renderDouble_eq (x : Float) :
    renderDouble x = if Binary64.isNegative x then '-' :: doubleText x else doubleText x :=
  rfl

theorem denotes_doubleText (x : Float) : Denotes (doubleText x) (shortest x).value := by
  unfold doubleText
  dsimp only
  split
  next hzero =>
    change Denotes (['0'] ++ '.' :: ['0']) _
    refine denotes_point (List.cons_ne_nil _ _) (allDigits_zeros 1) (allDigits_zeros 1) ?_
    rw [Decimal.value, hzero]
    simp [natOfDigits, digitValue]
  next =>
    split
    next =>
      split
      next h => exact Decimal.denotes_whole h
      next h => exact Decimal.denotes_positional (by omega)
    next => exact Decimal.denotes_scientific

/-- The text of a finite double reads back to it and to no other one. -/
theorem renderDouble_injective (hx : x.isFinite = true) (hy : y.isFinite = true)
    (h : renderDouble x = renderDouble y) : x = y := by
  have hwithin : BinaryFormat.double.WithinDouble := ⟨le_rfl, le_rfl, le_rfl⟩
  have hholds := Binary64.holds_magnitude hx
  have hholds' := Binary64.holds_magnitude hy
  have hdenotes := denotes_doubleText x
  have hdenotes' := denotes_doubleText y
  obtain ⟨hsign, htext⟩ :=
    signed_inj hdenotes.startsWithDigit hdenotes'.startsWithDigit h
  have hvalue : (shortest x).value = (shortest y).value := by
    rw [← hdenotes.value, htext, hdenotes'.value]
  have hrounds := Decimal.roundsTo_shortest hwithin .toEven hholds
  have hrounds' := Decimal.roundsTo_shortest hwithin .toEven hholds'
  change BinaryFormat.double.RoundsTo _ (shortest x).value at hrounds
  rw [hvalue] at hrounds
  exact Binary64.eq_of_magnitude (Bool.eq_iff_iff.mpr hsign)
    (hrounds.unique (by decide) hholds hholds' hrounds')

/-! ## Integers -/

theorem startsWithDigit_toDigits (n : ℕ) : StartsWithDigit (Nat.toDigits 10 n) :=
  (allDigits_toDigits n).startsWithDigit Nat.toDigits_ne_nil

theorem renderInteger_injective {m n : ℤ} (h : renderInteger m = renderInteger n) : m = n := by
  obtain ⟨hsign, hdigits⟩ :=
    signed_inj (startsWithDigit_toDigits m.natAbs) (startsWithDigit_toDigits n.natAbs) h
  have habs : m.natAbs = n.natAbs := by
    rw [← natOfDigits_toDigits m.natAbs, hdigits, natOfDigits_toDigits]
  omega

theorem mem_renderInteger {n : ℤ} {c : Char} (h : c ∈ renderInteger n) :
    c = '-' ∨ c.isDigit = true := by
  unfold renderInteger at h
  split at h
  next => exact (List.mem_cons.mp h).imp_right (allDigits_toDigits _ c)
  next => exact .inr (allDigits_toDigits _ c h)

/-! ## Numbers -/

theorem mem_renderDouble {c : Char} (h : c ∈ doubleText x) : c ∈ renderDouble x := by
  rw [renderDouble_eq]
  split
  next => exact List.mem_cons_of_mem _ h
  next => exact h

/-- Only doubles have a point or an exponent. -/
theorem renderInteger_ne_renderDouble (n : ℤ) (x : Float) : renderInteger n ≠ renderDouble x := by
  intro h
  obtain hmark | hmark := (denotes_doubleText x).marked
  all_goals
    have hmem := mem_renderInteger (h ▸ mem_renderDouble hmark)
    revert hmem
    decide

/-- Different numbers have different texts. -/
theorem render_injective (h : a.render = b.render) : a = b := by
  cases a with
  | integer m _ =>
      cases b with
      | integer n _ =>
          obtain rfl := renderInteger_injective h
          rfl
      | double y _ => exact absurd h (renderInteger_ne_renderDouble m y)
  | double x hx =>
      cases b with
      | integer n _ => exact absurd h.symm (renderInteger_ne_renderDouble n x)
      | double y hy =>
          obtain rfl := renderDouble_injective hx hy h
          rfl

theorem isNumberChar_of_mem_render {c : Char} (h : c ∈ a.render) : isNumberChar c = true := by
  cases a with
  | integer n _ =>
      obtain rfl | hdigit := mem_renderInteger h
      · rfl
      · exact isNumberChar_of_isDigit hdigit
  | double x _ =>
      have hchars := (denotes_doubleText x).numberChars
      change c ∈ renderDouble x at h
      rw [renderDouble_eq] at h
      split at h
      next =>
        obtain rfl | hmem := List.mem_cons.mp h
        · rfl
        · exact hchars c hmem
      next => exact hchars c h

/-- The text of a number starts with a digit or a minus. -/
theorem exists_render_eq_cons (a : Number) :
    ∃ first rest, a.render = first :: rest ∧ (first = '-' ∨ first.isDigit = true) := by
  have hsigned {p : Prop} [Decidable p] {text : List Char}
      (htext : StartsWithDigit text) :
      ∃ first rest, (if p then '-' :: text else text) = first :: rest ∧
        (first = '-' ∨ first.isDigit = true) := by
    obtain ⟨first, rest, rfl, hfirst⟩ := htext
    split
    next => exact ⟨'-', first :: rest, rfl, .inl rfl⟩
    next => exact ⟨first, rest, rfl, .inr hfirst⟩
  cases a with
  | integer n _ => exact hsigned (startsWithDigit_toDigits n.natAbs)
  | double x _ => exact hsigned (denotes_doubleText x).startsWithDigit

end Json.Number

end SlideDeck
