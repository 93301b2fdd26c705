import SlideDeck.Proofs.Content.Figures
import SlideDeck.Proofs.Numeric.Sign

/-!
# Trends of changes

The number of a change is read from its first figure, the trend from its first character. So the
trend is the sign of the number just when the number is not zero and the minus of a negative one is
a hyphen that nothing but blanks stands in front of.
-/

namespace SlideDeck

namespace Figure

variable {text : String} {x : Float}

theorem not_isBlank_of_begins {c : Char} (h : begins c = true) : Text.isBlank c = false := by
  have hcases : Text.isAsciiDigit c = true ∨ c = '-' ∨ c = '.' ∨ c = '−' := by
    simpa [begins, isStart, or_assoc] using h
  rcases hcases with hdigit | rfl | rfl | rfl
  · have hrange : 48 ≤ c.toNat ∧ c.toNat ≤ 57 := by
      simpa [Text.isAsciiDigit, Char.le_def, UInt32.le_iff_toNat_le] using hdigit
    simp [Text.isBlank]
    omega
  · rfl
  · rfl
  · rfl

/-- What a figure is read as has a sign just when it begins with a minus. -/
theorem minus_iff {mark : Char} {negative : Bool} {rest unsigned : List Char}
    (hmark : begins mark = true) (hunsigned : ∀ c ∈ unsigned, c ≠ '-')
    (h : plain (mark :: rest) = minus negative ++ unsigned) :
    negative = true ↔ mark = '-' ∨ mark = '−' := by
  rw [plain_cons hmark] at h
  cases negative with
  | true =>
      have hhyphen : (if mark = '−' then '-' else mark) = '-' := (List.cons.inj h).1
      refine iff_of_true rfl ?_
      split at hhyphen
      next hminus => exact .inr hminus
      next => exact .inl hhyphen
  | false =>
      have hfirst : (if mark = '−' then '-' else mark) ≠ '-' :=
        hunsigned _ (by rw [← show _ = unsigned from h]; exact List.mem_cons_self)
      refine iff_of_false Bool.false_ne_true ?_
      rintro (rfl | rfl) <;> exact hfirst rfl

/-- A number that is read is on the side of zero that its sign says, or it is zero. -/
theorem compare_zero_of_leading? (h : leading? text = some x) :
    ∃ negative unsigned, run text.toList = minus negative ++ unsigned ∧
      (∀ c ∈ unsigned, c ≠ '-') ∧ unsigned ≠ [] ∧
      ∃ o : Ordering, o ≠ (if negative then .gt else .lt) ∧ (x < 0 ↔ o = .lt) ∧
        ((x == 0) = true ↔ o = .eq) ∧ (0 < x ↔ o = .gt) := by
  obtain ⟨negative, digits, places, unsigned, hrun, hspells, rfl⟩ := leading?_eq_some_iff.mp h
  have hsign := Binary64.hasSign_ofDecimal negative (Text.natOfDigits digits) (-places)
  refine ⟨negative, unsigned, hrun, ?_, ?_, Binary64.compare_zero_of_hasSign hsign⟩
  · rintro c hc rfl
    exact absurd (hspells.isAsciiDigit_or_point '-' hc) (by decide)
  · obtain ⟨c, hc, _⟩ := hspells.exists_digit
    exact List.ne_nil_of_mem hc

end Figure

namespace DataPoint

/-- A trend tells on which side of zero a number is. -/
def TellsSign (trend : Int) (x : Float) : Prop :=
  (x < 0 → trend = -1) ∧ ((x == 0) = true → trend = 0) ∧ (0 < x → trend = 1)

/-- The trend of a change depends on the character that its first figure begins with, and on what
stands in front of it. -/
theorem trend_eq {p : DataPoint} {change : String} (hchange : p.change = some change)
    {front rest : List Char} {mark : Char} (hsplit : change.toList = front ++ mark :: rest)
    (hfront : ∀ c ∈ front, Figure.begins c = false) (hmark : Figure.begins mark = true) :
    p.trend = if mark = '-' ∧ front.all Text.isBlank = true then -1 else 1 := by
  unfold trend
  rw [hchange, Option.getD_some, hsplit]
  by_cases hblank : front.all Text.isBlank = true
  · have hnotBlank := ne_true_of_eq_false (Figure.not_isBlank_of_begins hmark)
    rw [List.dropWhile_append_of_pos (List.all_eq_true.mp hblank),
      List.dropWhile_cons_of_neg hnotBlank]
    by_cases hhyphen : mark = '-'
    · rw [if_pos ⟨hhyphen, hblank⟩, hhyphen]
      rfl
    · rw [if_neg fun h => hhyphen h.1]
      split
      next heq => cases heq
      next heq => exact absurd (List.cons.inj heq).1 hhyphen
      next => rfl
  · rw [if_neg fun h => hblank h.2, List.dropWhile_append]
    -- the first character that is no blank begins no figure, so it is no hyphen
    cases hrest : front.dropWhile Text.isBlank with
    | nil => exact absurd (List.all_eq_true.mpr (List.dropWhile_eq_nil_iff.mp hrest)) hblank
    | cons first more =>
        have hfirst : first ∈ front := (List.dropWhile_sublist _).subset (by rw [hrest]; simp)
        have hhyphen : first ≠ '-' := by
          rintro rfl
          exact absurd (hfront '-' hfirst) (by decide)
        rw [if_neg (by simp)]
        split
        next heq => cases heq
        next heq => exact absurd (List.cons.inj heq).1 hhyphen
        next => rfl

/-- The number of a change is below zero only with a minus, a hyphen or the one of typography, and
above zero only without one. The trend is down with a hyphen that nothing but blanks stands in front
of, and else it is up. So it tells the sign of the number just when this is not zero and such a
hyphen is what it has for a minus if it is below. -/
theorem trend_tells_sign_iff {p : DataPoint} {x : Float} (hx : p.changeValue? = some x) :
    ∃ change front mark rest, p.change = some change ∧
      change.toList = front ++ mark :: rest ∧
      (∀ c ∈ front, Figure.begins c = false) ∧ Figure.begins mark = true ∧
      (x < 0 ∨ (x == 0) = true ∨ 0 < x) ∧
      (x < 0 → mark = '-' ∨ mark = '−') ∧ (0 < x → mark ≠ '-' ∧ mark ≠ '−') ∧
      p.trend = (if mark = '-' ∧ front.all Text.isBlank = true then -1 else 1) ∧
      (TellsSign p.trend x ↔ (x == 0) = false ∧
        (x < 0 → mark = '-' ∧ front.all Text.isBlank = true)) := by
  obtain ⟨change, hchange, hread⟩ := Option.bind_eq_some_iff.mp hx
  obtain ⟨negative, unsigned, hrun, hunsigned, hnonempty, o, hside, hbelow, hzero, habove⟩ :=
    Figure.compare_zero_of_leading? hread
  obtain ⟨front, figure, back, hfigure⟩ := Figure.exists_firstFigure change.toList
  rw [hfigure.run_eq] at hrun
  cases figure with
  | nil => exact absurd (List.append_eq_nil_iff.mp hrun.symm).2 hnonempty
  | cons mark rest =>
      have hmark : Figure.begins mark = true := hfigure.begun mark rfl
      have hminus := Figure.minus_iff hmark hunsigned hrun
      have hsplit : change.toList = front ++ mark :: (rest ++ back) := hfigure.split
      have htrend := trend_eq hchange hsplit hfigure.front hmark
      have hnegative : x < 0 → negative = true := fun h => by
        cases negative with
        | true => rfl
        | false => exact absurd (hbelow.mp h) hside
      have hpositive : 0 < x → negative = false := fun h => by
        cases negative with
        | true => exact absurd (habove.mp h) hside
        | false => rfl
      refine ⟨change, front, mark, rest ++ back, hchange, hsplit, hfigure.front, hmark, ?_,
        fun h => hminus.mp (hnegative h),
        fun h => not_or.mp (mt hminus.mpr (by simp [hpositive h])), htrend, ?_⟩
      · rw [hbelow, hzero, habove]
        cases o <;> simp
      · constructor
        · rintro ⟨hdown, hflat, _⟩
          refine ⟨?_, fun h => ?_⟩
          · rw [← Bool.not_eq_true]
            intro h
            have htrend' := htrend.symm.trans (hflat h)
            split at htrend' <;> cases htrend'
          · have htrend' := htrend.symm.trans (hdown h)
            split at htrend'
            next hhyphen => exact hhyphen
            next => cases htrend'
        · rintro ⟨hnonzero, hhyphen⟩
          refine ⟨fun h => htrend.trans (if_pos (hhyphen h)), fun h => ?_, fun h => ?_⟩
          · rw [hnonzero] at h
            cases h
          · refine htrend.trans (if_neg fun hdown => ?_)
            exact absurd (hpositive h) (by simp [hminus.mpr (.inl hdown.1)])

/-- A change with a hyphen behind a blank. -/
def hyphenatedChange : DataPoint where
  label := "Churn"
  value := "4%"
  change := some " -12% since May"

theorem trend_tells_sign_iff_hyphenatedChange : ∃ x, hyphenatedChange.changeValue? = some x ∧
    x < 0 ∧ TellsSign hyphenatedChange.trend x := by
  have hx : hyphenatedChange.changeValue? = some (-12) := rfl
  obtain ⟨_, front, mark, _, _, _, _, _, _, _, _, htrend, htells⟩ := trend_tells_sign_iff hx
  refine ⟨-12, hx, by decide, htells.mpr ⟨by decide, fun _ => ?_⟩⟩
  have hdown : hyphenatedChange.trend = -1 := rfl
  rw [hdown] at htrend
  split at htrend
  next hhyphen => exact hhyphen
  next => cases htrend

/-- A change with the minus of typography, as in replies of a language model. -/
def typographicChange : DataPoint where
  label := "Churn"
  value := "4%"
  change := some "−5%"

/-- The number of the change is below zero, and its trend is up. -/
theorem not_tellsSign_typographicChange : ∃ x, typographicChange.changeValue? = some x ∧ x < 0 ∧
    typographicChange.trend = 1 ∧ ¬ TellsSign typographicChange.trend x := by
  refine ⟨-5, rfl, by decide, rfl, fun h => ?_⟩
  exact absurd (h.1 (by decide)) (by decide)

end DataPoint

end SlideDeck
