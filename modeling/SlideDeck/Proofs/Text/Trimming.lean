import Mathlib.Data.List.DropRight
import SlideDeck.Text.Blank

/-!
# Trimmed texts, and texts inside texts

Trimming takes a part out of the middle of a text, and a second time it finds nothing to
take away. A text occurs in another one when it is a contiguous part of it.
-/

namespace SlideDeck.Text

theorem dropWhileEnd_eq_rdropWhile (p : Char → Bool) (cs : List Char) :
    dropWhileEnd p cs = cs.rdropWhile p := rfl

theorem isPrefix_dropWhileEnd (p : Char → Bool) (cs : List Char) : dropWhileEnd p cs <+: cs :=
  List.rdropWhile_prefix p cs

theorem isInfix_trimChars (cs : List Char) : trimChars cs <:+: cs :=
  (isPrefix_dropWhileEnd isBlank _).isInfix.trans (List.dropWhile_suffix isBlank).isInfix

/-- A trimmed text does not start with a blank. -/
theorem dropWhile_trimChars (cs : List Char) :
    (trimChars cs).dropWhile isBlank = trimChars cs := by
  rw [List.dropWhile_eq_self_iff]
  intro hlength
  -- its first character is the one that the blanks in front have been dropped for
  have hfront : trimChars cs <+: cs.dropWhile isBlank := isPrefix_dropWhileEnd isBlank _
  have hself : (cs.dropWhile isBlank).dropWhile isBlank = cs.dropWhile isBlank :=
    List.dropWhile_idempotent isBlank cs
  rw [hfront.getElem hlength]
  exact List.dropWhile_eq_self_iff.mp hself (hlength.trans_le hfront.length_le)

theorem trimChars_trimChars (cs : List Char) : trimChars (trimChars cs) = trimChars cs := by
  calc trimChars (trimChars cs)
      = dropWhileEnd isBlank (trimChars cs) := congrArg _ (dropWhile_trimChars cs)
    _ = trimChars cs := List.rdropWhile_idempotent isBlank _

/-- A trimmed text does not end with blanks. -/
theorem not_forall_isBlank_of_trimmed {front back : List Char}
    (h : trimChars (front ++ back) = front ++ back) (hback : back ≠ []) :
    ¬ ∀ c ∈ back, isBlank c = true := by
  have hend : (trimChars (front ++ back)).rdropWhile isBlank = trimChars (front ++ back) :=
    List.rdropWhile_idempotent isBlank _
  rw [h, List.rdropWhile_eq_self_iff] at hend
  have hlast := hend (List.append_ne_nil_of_right_ne_nil front hback)
  rw [List.getLast_append_of_ne_nil _ hback] at hlast
  exact fun hblank => hlast (hblank _ (List.getLast_mem hback))

/-- Trimming leaves a text without blanks as it is. -/
theorem trimChars_of_forall {cs : List Char} (h : ∀ c ∈ cs, isBlank c = false) :
    trimChars cs = cs := by
  have hfront : cs.dropWhile isBlank = cs :=
    List.dropWhile_eq_self_iff.mpr fun hlength =>
      ne_true_of_eq_false (h _ (List.getElem_mem hlength))
  rw [trimChars, hfront, dropWhileEnd_eq_rdropWhile]
  exact List.rdropWhile_eq_self_iff.mpr fun hnonempty =>
    ne_true_of_eq_false (h _ (List.getLast_mem hnonempty))

theorem trimChars_eq_nil_iff {cs : List Char} : trimChars cs = [] ↔ ∀ c ∈ cs, isBlank c = true := by
  rw [← List.dropWhile_eq_nil_iff]
  unfold trimChars
  rw [dropWhileEnd_eq_rdropWhile, List.rdropWhile_eq_nil_iff, ← List.dropWhile_eq_nil_iff,
    List.dropWhile_idempotent]

@[simp]
theorem toList_trim (s : String) : (trim s).toList = trimChars s.toList := String.toList_ofList

theorem trim_trim (s : String) : trim (trim s) = trim s := by
  rw [← String.toList_inj, toList_trim, toList_trim, trimChars_trimChars]

/-- A text of blanks is one that trimming leaves nothing of. -/
theorem isEmpty_trim (s : String) : (trim s).isEmpty = isBlankText s := by
  rw [Bool.eq_iff_iff, String.isEmpty_iff, ← String.toList_inj, toList_trim]
  exact trimChars_eq_nil_iff.trans List.all_eq_true.symm

/-! ## Texts inside texts -/

theorem splitFirstOn_isSome_iff {pattern text : List Char} :
    (splitFirstOn pattern text).isSome = true ↔ pattern <:+: text := by
  induction text with
  | nil => cases pattern <;> simp [splitFirstOn]
  | cons c cs ih =>
      rw [splitFirstOn, List.infix_cons_iff, ← ih]
      split
      next hfront => simp [List.isPrefixOf_iff_prefix.mp hfront]
      next hfront =>
        have hnot : ¬ pattern <+: c :: cs := fun h => hfront (List.isPrefixOf_iff_prefix.mpr h)
        rw [Option.isSome_map]
        exact (or_iff_right hnot).symm

/-- A text occurs in another one when it is a contiguous part of it. -/
theorem occursIn_iff {pattern text : String} :
    occursIn pattern text = true ↔ pattern.toList <:+: text.toList :=
  splitFirstOn_isSome_iff

theorem occursIn_trim (s : String) : occursIn (trim s) s = true := by
  rw [occursIn_iff, toList_trim]
  exact isInfix_trimChars _

end SlideDeck.Text
