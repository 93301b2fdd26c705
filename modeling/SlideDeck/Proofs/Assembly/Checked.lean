import SlideDeck.Assembly.Checked
import SlideDeck.Proofs.Assembly.Outcome

/-!
# What checks for overflow change

Checks for overflow stop an assembly just where there is what it takes and the bounds of the
target do not fit a word. They change nothing else: an assembly that is not stopped comes to
the same deck, and one that lacks something to the same error.
-/

namespace SlideDeck

/-! ## Bounds -/

theorem wordProduct?_eq (a b : Nat) :
    wordProduct? a b = if a * b < UInt64.size then some (wordProduct a b) else none := by
  unfold wordProduct? wordProduct
  split
  next hfits => rw [Nat.mod_eq_of_lt hfits]
  next => rfl

theorem slideUpperBound?_eq (target : Nat) : slideUpperBound? target =
    if target * 120 < UInt64.size then some (slideUpperBound target) else none := by
  unfold slideUpperBound? slideUpperBound
  rw [wordProduct?_eq]
  split <;> rfl

/-- The lower bound fits a word where the upper one does. -/
theorem slideLowerBound?_of_fits {target : Nat} (h : target * 120 < UInt64.size) :
    slideLowerBound? target = some (slideLowerBound target) := by
  have hlower : target * 80 < UInt64.size :=
    Nat.lt_of_le_of_lt (Nat.mul_le_mul_left target (by decide)) h
  unfold slideLowerBound? slideLowerBound
  rw [wordProduct?_eq, if_pos hlower]
  rfl

/-! ## Steps of an assembly -/

section Steps

variable (p : Parameters)

theorem Parameters.targetFits_iff {target : Nat} (h : p.slideCount = some target) :
    p.TargetFits ↔ target * 120 < UInt64.size := by
  unfold TargetFits
  rw [h]
  exact ⟨fun hfits => hfits target rfl, by rintro hfits _ ⟨⟩; exact hfits⟩

theorem Parameters.targetFits_of_none {p : Parameters} (h : p.slideCount = none) :
    p.TargetFits := by
  unfold TargetFits
  rw [h]
  exact nofun

theorem slideCountWarning?_eq (actual : Nat) : slideCountWarning? p.slideCount actual =
    if p.TargetFits then some (slideCountWarning p.slideCount actual) else none := by
  cases hcount : p.slideCount with
  | none =>
      rw [if_pos (Parameters.targetFits_of_none hcount)]
      rfl
  | some target =>
      simp only [p.targetFits_iff hcount]
      unfold slideCountWarning? slideCountWarning
      dsimp only
      rw [slideUpperBound?_eq]
      split
      next hfits =>
        rw [slideLowerBound?_of_fits hfits]
        dsimp only [bind, Option.bind]
        split
        next habove =>
          rw [if_pos (.inl habove)]
          rfl
        next habove => simp only [habove, false_or, pure]
      next => rfl

theorem trimSections?_eq (sections : List Section) (hasClosing : Bool) :
    trimSections? sections p.slideCount hasClosing =
      if p.TargetFits then some (trimSections sections p.slideCount hasClosing) else none := by
  cases hcount : p.slideCount with
  | none =>
      rw [if_pos (Parameters.targetFits_of_none hcount)]
      rfl
  | some target =>
      simp only [p.targetFits_iff hcount]
      unfold trimSections? trimSections
      dsimp only
      rw [slideUpperBound?_eq]
      split <;> rfl

namespace Anchors

variable (a : Anchors) (content : Content)

theorem ruleBased?_eq (table : SelectionTable) : a.ruleBased? table content p =
    if p.TargetFits then some (a.ruleBased table content p) else none := by
  unfold ruleBased? ruleBased
  rw [trimSections?_eq]
  split
  next hfits =>
    dsimp only [bind, Option.bind]
    rw [slideCountWarning?_eq, if_pos hfits]
    rfl
  next => rfl

/-- Proposals are settled before the target is looked at: that none of them is of use is found
out whatever the target is. -/
theorem reconcile?_eq (proposal : Proposal) : a.reconcile? content p proposal =
    if p.TargetFits ∨ a.reconcile content p proposal = none then
      some (a.reconcile content p proposal)
    else none := by
  unfold reconcile? reconcile
  cases a.reconciledSlides content proposal with
  | none =>
      rw [if_pos (.inr rfl)]
      rfl
  | some slides =>
      obtain ⟨entries, warnings⟩ := slides
      dsimp only
      rw [slideCountWarning?_eq]
      by_cases hfits : p.TargetFits
      · rw [if_pos hfits, if_pos (.inl hfits)]
        rfl
      · rw [if_neg hfits, if_neg (by simp [hfits])]
        rfl

end Anchors

end Steps

/-! ## Assemblies -/

section Assemblies

variable {table : SelectionTable} {content : Content} {components : List Component}
  {p : Parameters} {proposal : Option Proposal}

/-- What is missing is found out before the target is looked at. -/
theorem assemble?_of_find_error {e : AssemblyError}
    (h : Anchors.find content components = .error e) :
    assemble? table content components p proposal = some (.error e) := by
  unfold assemble?
  rw [h]

theorem assemble?_of_find_ok {a : Anchors} (h : Anchors.find content components = .ok a) :
    assemble? table content components p proposal =
      if p.TargetFits then some (assemble table content components p proposal) else none := by
  unfold assemble? assemble
  rw [h]
  cases proposal with
  | none =>
      dsimp only
      rw [a.ruleBased?_eq]
      split <;> rfl
  | some proposal =>
      dsimp only [bind, Except.bind]
      rw [a.reconcile?_eq, a.ruleBased?_eq]
      by_cases hfits : p.TargetFits
      · rw [if_pos (.inl hfits), if_pos hfits, if_pos hfits]
        cases a.reconcile content p proposal <;> rfl
      · rw [if_neg hfits, if_neg hfits]
        cases a.reconcile content p proposal <;> simp [hfits]

/-- Checks for overflow stop an assembly just where nothing is missing and the bounds of the
target do not fit a word. -/
theorem assemble?_eq_none_iff :
    assemble? table content components p proposal = none ↔
      Equipped content components ∧ ¬ p.TargetFits := by
  rw [← Anchors.exists_find_iff]
  cases hfind : Anchors.find content components with
  | error e =>
      rw [assemble?_of_find_error hfind]
      exact iff_of_false nofun (by rintro ⟨⟨a, hfound⟩, _⟩; cases hfound)
  | ok a =>
      rw [assemble?_of_find_ok hfind]
      simp

end Assemblies

end SlideDeck
