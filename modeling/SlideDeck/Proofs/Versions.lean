import SlideDeck.Proofs.Numeric.DecimalText
import SlideDeck.Proofs.Text.Pieces
import SlideDeck.Version

/-!
# Versions that have been written

A version that is well formed comes back from its text, and whatever is read is well formed: the
numbers fit 64 bits and the identifiers are the ones that a text can hold.
-/

namespace SlideDeck.Version

open Text

/-- An identifier has a character, and where numbers count it has no leading zeros. -/
def isIdentifier (strict : Bool) (part : List Char) : Bool :=
  !part.isEmpty && part.all isIdentifierChar &&
    !(strict && part.all isAsciiDigit && 1 < part.length && part.head? == some '0')

/-- The numbers fit 64 bits and the identifiers are sound. -/
structure WellFormed (v : Version) : Prop where
  major : v.major < UInt64.size
  minor : v.minor < UInt64.size
  patch : v.patch < UInt64.size
  pre : ∀ id ∈ v.pre, isIdentifier true id.toList = true
  build : ∀ id ∈ v.build, isIdentifier false id.toList = true

theorem identifiers?_eq (strict : Bool) (cs : List Char) :
    identifiers? strict cs =
      if (splitOn '.' cs).all (isIdentifier strict) then some ((splitOn '.' cs).map String.ofList)
      else none := rfl

/-! ## Numbers -/

/-- Only zero begins with the digit zero. -/
theorem head?_toDigits_ne_zero {n : ℕ} (h : 0 < n) : (Nat.toDigits 10 n).head? ≠ some '0' := by
  induction n using Nat.strongRecOn with
  | ind n ih =>
      by_cases hless : n < 10
      · rw [Nat.toDigits_of_lt_base hless, List.head?_cons, ne_eq, Option.some_inj,
          Nat.digitChar_eq_zero]
        omega
      · rw [Nat.toDigits_of_base_le (by norm_num) (not_lt.mp hless),
          List.head?_append_of_ne_nil _ Nat.toDigits_ne_nil]
        exact ih (n / 10) (by omega) (by omega)

theorem number?_toDigits {n : ℕ} (h : n < UInt64.size) : number? (Nat.toDigits 10 n) = some n := by
  have hdigits : (Nat.toDigits 10 n).all isAsciiDigit = true :=
    List.all_eq_true.mpr (allDigits_toDigits n)
  unfold number?
  split
  next hnil => exact absurd hnil Nat.toDigits_ne_nil
  next heq =>
    obtain rfl | hpos := n.eq_zero_or_pos
    · cases heq
    · exact absurd (heq ▸ rfl : (Nat.toDigits 10 n).head? = some '0') (head?_toDigits_ne_zero hpos)
  next => rw [natOfDigits_toDigits, if_pos ⟨hdigits, h⟩]

theorem lt_of_number? {cs : List Char} {n : ℕ} (h : number? cs = some n) : n < UInt64.size := by
  unfold number? at h
  split at h
  next => cases h
  next => cases h
  next =>
    obtain ⟨⟨_, hfits⟩, ⟨⟩⟩ := Option.ite_none_right_eq_some.mp h
    exact hfits

/-! ## Identifiers -/

section Identifiers

variable {strict : Bool} {ids : List String} {cs : List Char}

theorem isIdentifierChar_of_mem {part : List Char} (h : isIdentifier strict part = true) {c : Char}
    (hc : c ∈ part) : isIdentifierChar c = true := by
  simp only [isIdentifier, Bool.and_eq_true] at h
  exact List.all_eq_true.mp h.1.2 c hc

/-- The identifiers come back from the text that joins them. -/
theorem identifiers?_intercalate (h : ∀ id ∈ ids, isIdentifier strict id.toList = true)
    (hnonempty : ids ≠ []) :
    identifiers? strict (['.'].intercalate (ids.map String.toList)) = some ids := by
  have hpieces : splitOn '.' (['.'].intercalate (ids.map String.toList)) =
      ids.map String.toList := by
    refine splitOn_intercalate (fun piece hpiece hdot => ?_) (mt List.map_eq_nil_iff.mp hnonempty)
    obtain ⟨id, hid, rfl⟩ := List.mem_map.mp hpiece
    exact absurd (isIdentifierChar_of_mem (h id hid) hdot) (by decide)
  rw [identifiers?_eq, hpieces, if_pos, List.map_map]
  · simp
  · simpa using h

/-- What is read as identifiers has one at least, all of them sound. -/
theorem isIdentifier_of_identifiers? (h : identifiers? strict cs = some ids) :
    ∀ id ∈ ids, isIdentifier strict id.toList = true := by
  rw [identifiers?_eq] at h
  obtain ⟨hall, ⟨⟩⟩ := Option.ite_none_right_eq_some.mp h
  intro id hid
  obtain ⟨piece, hpiece, rfl⟩ := List.mem_map.mp hid
  rw [String.toList_ofList]
  exact List.all_eq_true.mp hall piece hpiece

end Identifiers

/-! ## Texts -/

/-- Reads the identifiers behind a mark, if it occurs, and gives what stands in front. -/
def behind? (strict : Bool) (mark : Char) (cs : List Char) :
    Option (List Char × List String) :=
  match splitFirst mark cs with
  | some (front, rest) => (identifiers? strict rest).map (front, ·)
  | none => some (cs, [])

theorem parse?_eq (t : String) :
    parse? t = (behind? false '+' t.toList).bind fun build =>
      (behind? true '-' build.1).bind fun pre =>
        (core? pre.1).map fun core => ⟨core.1, core.2.1, core.2.2, pre.2, build.2⟩ := by
  unfold parse? behind?
  dsimp only
  cases splitFirst '+' t.toList with
  | none => cases hminus : splitFirst '-' t.toList <;> simp [hminus, Option.map_eq_bind]
  | some parts =>
      cases hbuild : identifiers? false parts.2 with
      | none => simp [hbuild]
      | some build =>
          cases hminus : splitFirst '-' parts.1 <;> simp [hbuild, hminus, Option.map_eq_bind]

/-- The identifiers behind a mark; without any the mark is left out, too. -/
def marked (mark : Char) (ids : List String) : List Char :=
  if ids.isEmpty then [] else mark :: ['.'].intercalate (ids.map String.toList)

/-- The three numbers with points between them. -/
def coreText (v : Version) : List Char :=
  ['.'].intercalate ([v.major, v.minor, v.patch].map (Nat.toDigits 10))

theorem toList_text (v : Version) :
    v.text.toList = v.coreText ++ marked '-' v.pre ++ marked '+' v.build := by
  have hmarked : ∀ (mark : String) (ids : List String),
      (if ids.isEmpty then "" else mark ++ ".".intercalate ids).toList =
        if ids.isEmpty then [] else mark.toList ++ ['.'].intercalate (ids.map String.toList) := by
    intro mark ids
    split
    next => rfl
    next => rw [String.toList_append, String.toList_intercalate]; rfl
  rw [text, String.toList_append, String.toList_append, hmarked, hmarked]
  have hdot : (toString ".").toList = ['.'] := rfl
  simp [coreText, marked, List.intercalate, hdot]

variable {v : Version}

theorem core?_coreText (h : v.WellFormed) :
    core? v.coreText = some (v.major, v.minor, v.patch) := by
  have hpieces : splitOn '.' v.coreText = [v.major, v.minor, v.patch].map (Nat.toDigits 10) := by
    refine splitOn_intercalate (fun piece hpiece => ?_) (List.cons_ne_nil _ _)
    obtain ⟨n, _, rfl⟩ := List.mem_map.mp hpiece
    exact (allDigits_toDigits n).notMem (by decide)
  rw [core?, hpieces]
  simp [number?_toDigits h.major, number?_toDigits h.minor, number?_toDigits h.patch]

theorem notMem_coreText {mark : Char} (hmark : mark.isDigit = false) (hdot : mark ≠ '.') :
    mark ∉ v.coreText := by
  intro h
  obtain rfl | ⟨piece, hpiece, hc⟩ := mem_intercalate h
  · exact hdot rfl
  · obtain ⟨n, _, rfl⟩ := List.mem_map.mp hpiece
    exact (allDigits_toDigits n).notMem hmark hc

theorem plus_notMem_marked {strict : Bool} {ids : List String}
    (hids : ∀ id ∈ ids, isIdentifier strict id.toList = true) : '+' ∉ marked '-' ids := by
  intro h
  unfold marked at h
  split at h
  next => cases h
  next =>
    rcases List.mem_cons.mp h with h | h
    · cases h
    · obtain h | ⟨piece, hpiece, hc⟩ := mem_intercalate h
      · cases h
      · obtain ⟨id, hid, rfl⟩ := List.mem_map.mp hpiece
        exact absurd (isIdentifierChar_of_mem (hids id hid) hc) (by decide)

/-- Identifiers come back from behind a mark that does not stand in front. -/
theorem behind?_marked {strict : Bool} {mark : Char} {front : List Char} {ids : List String}
    (hmark : mark ∉ front) (hids : ∀ id ∈ ids, isIdentifier strict id.toList = true) :
    behind? strict mark (front ++ marked mark ids) = some (front, ids) := by
  unfold behind?
  cases ids with
  | nil =>
      have hplain : front ++ marked mark [] = front := List.append_nil front
      rw [hplain, splitFirst_eq_none hmark]
  | cons id rest =>
      have hmarked : marked mark (id :: rest) =
        mark :: ['.'].intercalate ((id :: rest).map String.toList) := rfl
      rw [hmarked, splitFirst_append hmark]
      dsimp only
      rw [identifiers?_intercalate hids (List.cons_ne_nil id rest)]
      rfl

/-- A version that is well formed comes back from its text. -/
theorem parse?_text (h : v.WellFormed) : parse? v.text = some v := by
  have hplus : '+' ∉ v.coreText ++ marked '-' v.pre := by
    rw [List.mem_append, not_or]
    exact ⟨notMem_coreText rfl (by decide), plus_notMem_marked h.pre⟩
  have hminus : '-' ∉ v.coreText := notMem_coreText rfl (by decide)
  rw [parse?_eq, toList_text, behind?_marked hplus h.build, Option.bind_some,
    behind?_marked hminus h.pre, Option.bind_some, core?_coreText h, Option.map_some]

theorem isIdentifier_of_behind? {strict : Bool} {mark : Char} {cs front : List Char}
    {ids : List String} (h : behind? strict mark cs = some (front, ids)) :
    ∀ id ∈ ids, isIdentifier strict id.toList = true := by
  unfold behind? at h
  split at h
  next =>
    obtain ⟨found, hfound, ⟨⟩⟩ := Option.map_eq_some_iff.mp h
    exact isIdentifier_of_identifiers? hfound
  next =>
    cases h
    exact nofun

/-- Whatever is read as a version is well formed. -/
theorem wellFormed_of_parse? {t : String} (h : parse? t = some v) : v.WellFormed := by
  simp only [parse?_eq, Option.bind_eq_some_iff, Option.map_eq_some_iff] at h
  obtain ⟨⟨front, build⟩, hbuild, ⟨core, pre⟩, hpre, ⟨major, minor, patch⟩, hcore, ⟨⟩⟩ := h
  unfold core? at hcore
  split at hcore
  next =>
    simp only [Option.bind_eq_bind, Option.bind_eq_some_iff] at hcore
    obtain ⟨_, hmajor, _, hminor, _, hpatch, ⟨⟩⟩ := hcore
    exact ⟨lt_of_number? hmajor, lt_of_number? hminor, lt_of_number? hpatch,
      isIdentifier_of_behind? hpre, isIdentifier_of_behind? hbuild⟩
  next => cases hcore

end SlideDeck.Version
