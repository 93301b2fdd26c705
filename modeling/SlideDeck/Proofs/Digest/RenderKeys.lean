import SlideDeck.Digest.RenderKey
import SlideDeck.Proofs.Json.Canonical

/-!
# Render keys

The stream behind a render key can be taken apart again: the length in front of a segment tells
where the segment ends, whatever its bytes are. Two keys are one only when all four inputs are,
up to the order of members, or when the digest has two streams with one value.
-/

namespace SlideDeck

namespace Sha256

/-! ## Bytes of numbers -/

variable {count : ℕ}

theorem bigEndian_succ (count n : ℕ) :
    bigEndian (count + 1) n = UInt8.ofNat (n >>> (8 * count)) :: bigEndian count n := by
  unfold bigEndian
  rw [List.range_succ_eq_map, List.map_cons, List.map_map]
  refine congrArg₂ List.cons (by simp) (List.map_congr_left fun i _ => ?_)
  simp only [Function.comp_apply]
  congr 3
  omega

theorem length_bigEndian_eq (m n : ℕ) :
    (bigEndian count m).length = (bigEndian count n).length := by
  simp [bigEndian]

/-- Big-endian bytes tell numbers apart that fit into them. -/
theorem mod_eq_of_bigEndian_eq {m n : ℕ} (h : bigEndian count m = bigEndian count n) :
    m % 256 ^ count = n % 256 ^ count := by
  induction count with
  | zero => simp [Nat.mod_one]
  | succ count ih =>
      -- the first byte is the digit in base 256 above those of the others
      rw [bigEndian_succ, bigEndian_succ, List.cons.injEq] at h
      have hhead := congrArg UInt8.toNat h.1
      have hpower : 2 ^ (8 * count) = 256 ^ count := by rw [Nat.pow_mul]
      simp only [UInt8.toNat_ofNat', Nat.shiftRight_eq_div_pow, hpower] at hhead
      rw [Nat.mod_pow_succ, Nat.mod_pow_succ, ih h.2]
      congr 2

theorem digitChar_injective :
    ∀ m < 16, ∀ n < 16, Nat.digitChar m = Nat.digitChar n → m = n := by
  decide

/-- Bytes are told apart by their hexadecimal digits. -/
theorem hexText_injective {first second : List UInt8} (h : hexText first = hexText second) :
    first = second := by
  unfold hexText at h
  replace h := String.ofList_inj.mp h
  induction first generalizing second with
  | nil =>
      cases second with
      | nil => rfl
      | cons _ _ => simp at h
  | cons a first ih =>
      cases second with
      | nil => simp at h
      | cons b second =>
          simp only [List.flatMap_cons, List.cons_append, List.nil_append, List.cons.injEq] at h
          obtain ⟨hhigh, hlow, hrest⟩ := h
          have ha := a.toNat_lt
          have hb := b.toNat_lt
          have hquotient := digitChar_injective _ (by omega) _ (by omega) hhigh
          have hremainder := digitChar_injective _ (by omega) _ (by omega) hlow
          rw [ih hrest, UInt8.toNat_inj.mp (by omega : a.toNat = b.toNat)]

/-- Two messages with one digest. -/
def Collide (first second : List UInt8) : Prop := first ≠ second ∧ digest first = digest second

theorem eq_or_collide_of_hex_eq {first second : List UInt8} (h : hex first = hex second) :
    first = second ∨ Collide first second := by
  by_cases heq : first = second
  · exact .inl heq
  · exact .inr ⟨heq, hexText_injective h⟩

end Sha256

/-! ## Segments -/

variable {first second rest rest' : List UInt8}

/-- What stands behind a segment is told from it when the length fits into its eight bytes. -/
theorem segment_append_inj (hfirst : first.length < 2 ^ 64) (hsecond : second.length < 2 ^ 64)
    (h : segment first ++ rest = segment second ++ rest') : first = second ∧ rest = rest' := by
  unfold segment at h
  rw [List.append_assoc, List.append_assoc] at h
  obtain ⟨hlength, hbytes⟩ := List.append_inj h (Sha256.length_bigEndian_eq _ _)
  -- eight bytes are enough for both lengths
  have hsame : first.length = second.length := by
    have := Sha256.mod_eq_of_bigEndian_eq hlength
    omega
  exact List.append_inj hbytes hsame

/-- The last segment may be of any length. -/
theorem segment_injective (h : segment first = segment second) : first = second :=
  (List.append_inj h (Sha256.length_bigEndian_eq _ _)).2

theorem toList_loop (bytes : ByteArray) (i : ℕ) (done : List UInt8) :
    ByteArray.toList.loop bytes i done = done.reverse ++ bytes.data.toList.drop i := by
  fun_induction ByteArray.toList.loop bytes i done with
  | case1 i done hless ih =>
      have hbound : i < bytes.data.toList.length := by simpa using hless
      have hbyte : bytes.get! i = bytes.data.toList[i] := by
        rw [ByteArray.get!, Array.getElem_toList]
        exact getElem!_pos bytes.data i (by simpa using hbound)
      rw [ih, List.drop_eq_getElem_cons hbound, hbyte]
      simp
  | case2 i done hless =>
      have hbound : bytes.data.toList.length ≤ i := by simpa using hless
      rw [List.drop_eq_nil_of_le hbound, List.append_nil]

theorem utf8Bytes_eq (s : String) : utf8Bytes s = s.toByteArray.data.toList := by
  rw [utf8Bytes, ByteArray.toList, toList_loop]
  rfl

theorem utf8Bytes_injective {s t : String} (h : utf8Bytes s = utf8Bytes t) : s = t := by
  rw [utf8Bytes_eq, utf8Bytes_eq] at h
  exact String.toByteArray_inj.mp (ByteArray.ext (Array.toList_inj.mp h))

theorem length_utf8Bytes (s : String) : (utf8Bytes s).length = s.utf8ByteSize := by
  rw [utf8Bytes_eq]
  simp

theorem reordered_of_utf8Bytes_eq {a b : Json}
    (h : utf8Bytes a.canonical = utf8Bytes b.canonical) : a.Reordered b :=
  Json.sorted_eq_iff.mp (Json.sorted_eq_of_canonical_eq (utf8Bytes_injective h))

/-! ## Keys -/

variable {program data theme program' data' theme' : Json} {engine engine' : String}

/-- A stream can be taken apart into its segments when the lengths of all but the last fit. -/
theorem segments_eq_of_renderKeyStream_eq
    (hlength : ∀ value ∈ [program, data, theme, program', data', theme'],
      (utf8Bytes value.canonical).length < 2 ^ 64)
    (h : renderKeyStream program data theme engine =
      renderKeyStream program' data' theme' engine') :
    utf8Bytes program.canonical = utf8Bytes program'.canonical ∧
      utf8Bytes data.canonical = utf8Bytes data'.canonical ∧
      utf8Bytes theme.canonical = utf8Bytes theme'.canonical ∧
      utf8Bytes engine = utf8Bytes engine' := by
  simp only [List.forall_mem_cons] at hlength
  obtain ⟨hprogram, hdata, htheme, hprogram', hdata', htheme', _⟩ := hlength
  unfold renderKeyStream at h
  simp only [List.append_assoc] at h
  obtain ⟨hsame, h⟩ := segment_append_inj hprogram hprogram' h
  obtain ⟨hsame', h⟩ := segment_append_inj hdata hdata' h
  obtain ⟨hsame'', h⟩ := segment_append_inj htheme htheme' h
  exact ⟨hsame, hsame', hsame'', segment_injective h⟩

/-- The streams behind two render keys are one when their segments are, one by one. So keys
coincide for inputs that coincide up to the order of members, and otherwise only where the digest
collides. -/
theorem renderKey_segments_unambiguous (program data theme program' data' theme' : Json)
    (engine engine' : String)
    (hlength : ∀ value ∈ [program, data, theme, program', data', theme'],
      (utf8Bytes value.canonical).length < 2 ^ 64) :
    (renderKeyStream program data theme engine = renderKeyStream program' data' theme' engine' ↔
      utf8Bytes program.canonical = utf8Bytes program'.canonical ∧
      utf8Bytes data.canonical = utf8Bytes data'.canonical ∧
      utf8Bytes theme.canonical = utf8Bytes theme'.canonical ∧
      utf8Bytes engine = utf8Bytes engine') ∧
    (renderKey program data theme engine = renderKey program' data' theme' engine' →
      (program.Reordered program' ∧ data.Reordered data' ∧ theme.Reordered theme' ∧
        engine = engine') ∨
      Sha256.Collide (renderKeyStream program data theme engine)
        (renderKeyStream program' data' theme' engine')) := by
  refine ⟨⟨segments_eq_of_renderKeyStream_eq hlength, ?_⟩, fun hkey => ?_⟩
  · rintro ⟨hprogram, hdata, htheme, hengine⟩
    rw [renderKeyStream, hprogram, hdata, htheme, hengine, renderKeyStream]
  · refine (Sha256.eq_or_collide_of_hex_eq hkey).imp_left fun hstream => ?_
    obtain ⟨hprogram, hdata, htheme, hengine⟩ :=
      segments_eq_of_renderKeyStream_eq hlength hstream
    exact ⟨reordered_of_utf8Bytes_eq hprogram, reordered_of_utf8Bytes_eq hdata,
      reordered_of_utf8Bytes_eq htheme, utf8Bytes_injective hengine⟩

/-- A character that moves from one text to the next changes the stream. -/
theorem renderKey_segments_unambiguous_movedCharacter :
    (∀ value ∈ [Json.string "ab", .string "c", .null, .string "a", .string "bc", .null],
      (utf8Bytes value.canonical).length < 2 ^ 64) ∧
    renderKeyStream (.string "ab") (.string "c") .null "1" ≠
      renderKeyStream (.string "a") (.string "bc") .null "1" := by
  have hlength : ∀ value ∈ [Json.string "ab", .string "c", .null, .string "a", .string "bc", .null],
      (utf8Bytes value.canonical).length < 2 ^ 64 := by
    simp only [length_utf8Bytes]
    decide +kernel
  refine ⟨hlength, fun hstream => ?_⟩
  obtain ⟨hprogram, _⟩ := (renderKey_segments_unambiguous (.string "ab") (.string "c") .null
    (.string "a") (.string "bc") .null "1" "1" hlength).1.mp hstream
  exact absurd (utf8Bytes_injective hprogram) (by decide +kernel)

end SlideDeck
