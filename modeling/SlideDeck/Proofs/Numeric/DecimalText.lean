import Mathlib.Data.List.TakeWhile
import SlideDeck.Text.Digit
import SlideDeck.Proofs.Numeric.Shortest

/-!
# Decimal text

The text of a decimal, with a point or with an exponent, can be read back exactly, so texts of
different values differ. A text with a point or an exponent is not the text of an integer.
-/

namespace SlideDeck

namespace Text

/-! ## Digits -/

/-- There are digits only. -/
def AllDigits (ds : List Char) : Prop := ∀ c ∈ ds, c.isDigit = true

/-- There is a digit at the front. -/
def StartsWithDigit (text : List Char) : Prop :=
  ∃ first rest, text = first :: rest ∧ first.isDigit = true

section Digits

variable {ds es : List Char}

theorem AllDigits.append (hds : AllDigits ds) (hes : AllDigits es) : AllDigits (ds ++ es) :=
  fun c hc => (List.mem_append.mp hc).elim (hds c) (hes c)

theorem AllDigits.notMem {mark : Char} (h : AllDigits ds) (hmark : mark.isDigit = false) :
    mark ∉ ds := fun hmem => by
  rw [h mark hmem] at hmark
  cases hmark

theorem AllDigits.startsWithDigit (h : AllDigits ds) (hnonempty : ds ≠ []) :
    StartsWithDigit ds := by
  obtain ⟨first, rest, rfl⟩ := List.exists_cons_of_ne_nil hnonempty
  exact ⟨first, rest, rfl, h first List.mem_cons_self⟩

theorem StartsWithDigit.append (h : StartsWithDigit ds) (es : List Char) :
    StartsWithDigit (ds ++ es) := by
  obtain ⟨first, rest, rfl, hfirst⟩ := h
  exact ⟨first, rest ++ es, rfl, hfirst⟩

theorem allDigits_zeros (n : ℕ) : AllDigits (List.replicate n '0') := by
  intro c hc
  rw [List.eq_of_mem_replicate hc]
  rfl

theorem allDigits_toDigits (n : ℕ) : AllDigits (Nat.toDigits 10 n) :=
  fun _ => Nat.isDigit_of_mem_toDigits (by norm_num) le_rfl

theorem natOfDigits_toDigits (n : ℕ) : natOfDigits (Nat.toDigits 10 n) = n :=
  Nat.ofDigitChars_toDigits (by norm_num) le_rfl

theorem natOfDigits_append_zeros (ds : List Char) (n : ℕ) :
    natOfDigits (ds ++ List.replicate n '0') = 10 ^ n * natOfDigits ds :=
  (Nat.ofDigitChars_append 0).trans Nat.ofDigitChars_replicate_zero

theorem natOfDigits_zeros_append (n : ℕ) (ds : List Char) :
    natOfDigits (List.replicate n '0' ++ ds) = natOfDigits ds := by
  refine (Nat.ofDigitChars_append 0).trans ?_
  rw [Nat.ofDigitChars_replicate_zero, Nat.mul_zero]
  rfl

end Digits

/-! ## Reading -/

/-- The value of digits with a point among them or without one. -/
def plainValue (text : List Char) : ℚ :=
  let whole := text.takeWhile (· != '.')
  let fraction := (text.dropWhile (· != '.')).tail
  natOfDigits (whole ++ fraction) / 10 ^ fraction.length

/-- The value of digits behind a sign. -/
def signedValue : List Char → ℤ
  | '-' :: ds => -natOfDigits ds
  | _ :: ds => natOfDigits ds
  | [] => 0

/-- The value of a decimal text, which may end in an exponent. -/
def decimalValue (text : List Char) : ℚ :=
  plainValue (text.takeWhile (· != 'e')) * 10 ^ signedValue (text.dropWhile (· != 'e')).tail

variable {whole fraction ds : List Char}

theorem takeWhile_append_mark {mark : Char} {front : List Char} (h : mark ∉ front)
    (back : List Char) : (front ++ mark :: back).takeWhile (· != mark) = front ∧
      (front ++ mark :: back).dropWhile (· != mark) = mark :: back := by
  have hfront : ∀ c ∈ front, (c != mark) = true := fun c hc =>
    bne_iff_ne.mpr fun heq => h (heq ▸ hc)
  rw [List.takeWhile_append_of_pos hfront, List.dropWhile_append_of_pos hfront]
  simp

theorem takeWhile_of_notMem {mark : Char} (h : mark ∉ ds) :
    ds.takeWhile (· != mark) = ds ∧ ds.dropWhile (· != mark) = [] := by
  have hall : ∀ c ∈ ds, (c != mark) = true := fun c hc =>
    bne_iff_ne.mpr fun heq => h (heq ▸ hc)
  exact ⟨List.takeWhile_eq_self_iff.mpr hall, List.dropWhile_eq_nil_iff.mpr hall⟩

theorem plainValue_point (h : '.' ∉ whole) :
    plainValue (whole ++ '.' :: fraction) =
      natOfDigits (whole ++ fraction) / 10 ^ fraction.length := by
  obtain ⟨htake, hdrop⟩ := takeWhile_append_mark h fraction
  rw [plainValue, htake, hdrop, List.tail_cons]

theorem plainValue_digits (h : '.' ∉ ds) : plainValue ds = natOfDigits ds := by
  obtain ⟨htake, hdrop⟩ := takeWhile_of_notMem h
  rw [plainValue, htake, hdrop]
  simp

theorem decimalValue_plain {text : List Char} (h : 'e' ∉ text) :
    decimalValue text = plainValue text := by
  obtain ⟨htake, hdrop⟩ := takeWhile_of_notMem h
  rw [decimalValue, htake, hdrop]
  simp [signedValue]

theorem decimalValue_exponent {mantissa power : List Char} (h : 'e' ∉ mantissa) :
    decimalValue (mantissa ++ 'e' :: power) =
      plainValue mantissa * 10 ^ signedValue power := by
  obtain ⟨htake, hdrop⟩ := takeWhile_append_mark h power
  rw [decimalValue, htake, hdrop, List.tail_cons]

theorem signedValue_signed (e : ℤ) :
    signedValue ((if e < 0 then '-' else '+') :: Nat.toDigits 10 e.natAbs) = e := by
  split
  next =>
    rw [signedValue, natOfDigits_toDigits]
    omega
  next =>
    rw [signedValue, natOfDigits_toDigits]
    · omega
    · decide

/-! ## Writing -/

/-- The characters of numbers. -/
def isNumberChar (c : Char) : Bool := c.isDigit || c ∈ ['-', '+', '.', 'e']

theorem isNumberChar_of_isDigit {c : Char} (h : c.isDigit = true) : isNumberChar c = true := by
  rw [isNumberChar, h, Bool.true_or]

/-- A text that reads as a value and looks like a number with a fraction or an exponent. -/
structure Denotes (text : List Char) (q : ℚ) : Prop where
  value : decimalValue text = q
  startsWithDigit : StartsWithDigit text
  marked : '.' ∈ text ∨ 'e' ∈ text
  numberChars : ∀ c ∈ text, isNumberChar c = true

/-- Digits around a point. -/
theorem denotes_point {q : ℚ} (hnonempty : whole ≠ []) (hwhole : AllDigits whole)
    (hfraction : AllDigits fraction)
    (hvalue : natOfDigits (whole ++ fraction) / 10 ^ fraction.length = q) :
    Denotes (whole ++ '.' :: fraction) q where
  value := by
    rw [decimalValue_plain, plainValue_point (hwhole.notMem rfl), hvalue]
    have hbefore : 'e' ∉ whole := hwhole.notMem rfl
    have hafter : 'e' ∉ fraction := hfraction.notMem rfl
    simp [hbefore, hafter]
  startsWithDigit := (hwhole.startsWithDigit hnonempty).append _
  marked := .inl (by simp)
  numberChars := by
    simp only [List.mem_append, List.mem_cons]
    rintro c (hc | rfl | hc)
    · exact isNumberChar_of_isDigit (hwhole c hc)
    · rfl
    · exact isNumberChar_of_isDigit (hfraction c hc)

end Text

namespace Decimal

open Text

variable {d : Decimal}

/-- Without places behind the point there are only digits. -/
theorem positional_of_whole (h : 0 ≤ d.exponent) :
    d.positional ≠ [] ∧ AllDigits d.positional ∧ (natOfDigits d.positional : ℚ) = d.value := by
  unfold positional
  dsimp only
  rw [if_pos h]
  split
  next hzero =>
    refine ⟨List.cons_ne_nil _ _, allDigits_zeros 1, ?_⟩
    rw [value, hzero]
    simp [natOfDigits, digitValue]
  next =>
    refine ⟨List.append_ne_nil_of_left_ne_nil Nat.toDigits_ne_nil _,
      (allDigits_toDigits _).append (allDigits_zeros _), ?_⟩
    rw [natOfDigits_append_zeros, digits, natOfDigits_toDigits, value,
      ← Int.toNat_of_nonneg h, Int.toNat_natCast, zpow_natCast]
    push_cast
    ring

/-- A whole decimal gets a fraction of zero. -/
theorem denotes_whole (h : 0 ≤ d.exponent) : Denotes (d.positional ++ ['.', '0']) d.value := by
  obtain ⟨hnonempty, hdigits, hvalue⟩ := positional_of_whole h
  refine denotes_point hnonempty hdigits (allDigits_zeros 1) ?_
  have hzero : natOfDigits (d.positional ++ ['0']) = 10 ^ 1 * natOfDigits d.positional :=
    natOfDigits_append_zeros d.positional 1
  rw [hzero, ← hvalue]
  push_cast
  simp

theorem natOfDigits_div_eq_value {ds : List Char} {places : ℕ} (h : d.exponent < 0)
    (hplaces : places = (-d.exponent).toNat) (hds : natOfDigits ds = d.coefficient) :
    (natOfDigits ds : ℚ) / 10 ^ places = d.value := by
  obtain ⟨n, hn⟩ := Int.eq_ofNat_of_zero_le (show 0 ≤ -d.exponent by omega)
  have hexponent : d.exponent = -(n : ℤ) := by omega
  rw [hplaces, hds, value, hexponent, neg_neg, Int.toNat_natCast, zpow_neg, zpow_natCast,
    div_eq_mul_inv]

/-- A decimal with places behind the point. -/
theorem denotes_positional (h : d.exponent < 0) : Denotes d.positional d.value := by
  have hdigits : AllDigits d.digits := allDigits_toDigits _
  unfold positional
  dsimp only
  rw [if_neg (by omega)]
  split
  next hplaces =>
    refine denotes_point ?_ (fun c hc => hdigits c (List.mem_of_mem_take hc))
      (fun c hc => hdigits c (List.mem_of_mem_drop hc)) (natOfDigits_div_eq_value h ?_ ?_)
    · rw [← List.length_pos_iff, List.length_take]
      omega
    · rw [List.length_drop]
      omega
    · rw [List.take_append_drop, digits, natOfDigits_toDigits]
  next hplaces =>
    refine denotes_point (List.cons_ne_nil '0' []) (allDigits_zeros 1)
      ((allDigits_zeros _).append hdigits) (natOfDigits_div_eq_value h ?_ ?_)
    · rw [List.length_append, List.length_replicate]
      omega
    · change natOfDigits (List.replicate (_ + 1) '0' ++ _) = _
      rw [natOfDigits_zeros_append, digits, natOfDigits_toDigits]

/-- In front of the exponent stand the digits, with a point after the first of several. -/
theorem exists_mantissa (d : Decimal) :
    ∃ mantissa, d.scientific = mantissa ++
        'e' :: (if d.leadingExponent < 0 then '-' else '+') ::
          Nat.toDigits 10 d.leadingExponent.natAbs ∧
      plainValue mantissa = d.coefficient / 10 ^ (d.digits.length - 1) ∧
      StartsWithDigit mantissa ∧ ∀ c ∈ mantissa, c.isDigit = true ∨ c = '.' := by
  have hdigits : AllDigits d.digits := allDigits_toDigits _
  have hread : natOfDigits d.digits = d.coefficient := natOfDigits_toDigits _
  obtain ⟨first, rest, hds, hfirst⟩ := hdigits.startsWithDigit Nat.toDigits_ne_nil
  rw [hds] at hdigits hread
  have hpoint : '.' ∉ [first] := AllDigits.notMem (List.forall_mem_singleton.mpr hfirst) rfl
  unfold scientific
  rw [hds]
  cases rest with
  | nil =>
    refine ⟨[first], rfl, ?_, ⟨first, [], rfl, hfirst⟩, fun c hc => .inl (hdigits c hc)⟩
    rw [plainValue_digits hpoint, hread]
    simp
  | cons second rest =>
    refine ⟨first :: '.' :: second :: rest, rfl, ?_, ⟨first, _, rfl, hfirst⟩, ?_⟩
    · change plainValue ([first] ++ '.' :: second :: rest) = _
      rw [plainValue_point hpoint, List.singleton_append, hread]
      rfl
    · intro c hc
      obtain rfl | rfl | hc := by simpa only [List.mem_cons] using hc
      · exact .inl hfirst
      · exact .inr rfl
      · exact .inl (hdigits c (List.mem_cons_of_mem _ (List.mem_cons.mpr hc)))

theorem denotes_scientific : Denotes d.scientific d.value := by
  obtain ⟨mantissa, htext, hvalue, hfirst, hchars⟩ := exists_mantissa d
  have hmark : 'e' ∉ mantissa := fun hmem => by simpa using hchars 'e' hmem
  rw [htext]
  refine ⟨?_, hfirst.append _, .inr (by simp), ?_⟩
  · have hpower : (10 : ℚ) ^ d.leadingExponent =
        10 ^ d.exponent * 10 ^ (d.digits.length - 1) := by
      rw [leadingExponent, zpow_add₀ (by norm_num), zpow_natCast]
    rw [decimalValue_exponent hmark, signedValue_signed, hvalue, hpower, value]
    field_simp
  · intro c hc
    simp only [List.mem_append, List.mem_cons] at hc
    obtain hc | rfl | rfl | hc := hc
    · obtain hc | rfl := hchars c hc
      · exact isNumberChar_of_isDigit hc
      · rfl
    · rfl
    · split <;> rfl
    · exact isNumberChar_of_isDigit (allDigits_toDigits _ c hc)

end Decimal

end SlideDeck
