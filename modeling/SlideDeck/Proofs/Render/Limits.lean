import SlideDeck.Library.Closings
import SlideDeck.Proofs.Render.Lockstep.Instructions

/-!
# Runs under greater limits

Limits can only stop a run. They never change what it draws, nor which failure of the
program it reports.
-/

namespace SlideDeck.RenderProgram

/-- Under greater limits a drawing stays the same drawing, and a failure that does not
come from a limit stays the same failure. -/
theorem execute_of_within {limits greater : ExecutionLimits} (h : limits.Within greater)
    (p : RenderProgram) (theme : Theme) (data : Json) :
    (∀ ops, p.execute ⟨limits, theme, data⟩ = .ok ops →
      p.execute ⟨greater, theme, data⟩ = .ok ops) ∧
    ∀ e, p.execute ⟨limits, theme, data⟩ = .error e → e.isBudget = false →
      p.execute ⟨greater, theme, data⟩ = .error e := by
  have hmatch : OutcomesMatch True (p.execute ⟨limits, theme, data⟩)
      (p.execute ⟨greater, theme, data⟩) :=
    p.execute_match ⟨.inr ⟨trivial, h⟩, rfl, fun _ _ _ => rfl⟩
  rcases hmatch with heq | ⟨_, stop, hstop, hbudget⟩
  · rw [heq]
    exact ⟨fun _ hops => hops, fun _ he _ => he⟩
  · constructor
    · intro ops hops
      rw [hstop] at hops
      cases hops
    · intro e he hprogram
      rw [hstop] at he
      cases he
      rw [hbudget] at hprogram
      cases hprogram

/-- The limits that a closing slide without contact just fits into. -/
def closingLimits : ExecutionLimits := ⟨18, 1, 0, 2, 0⟩

theorem execute_of_within_closing :
    closingLimits.Within .standard ∧
    (∃ ops, Library.thankYou.renderProgram.execute
        ⟨closingLimits, .standard, .object [("message", .string "Goodbye")]⟩ = .ok ops ∧
      Library.thankYou.renderProgram.execute
        ⟨.standard, .standard, .object [("message", .string "Goodbye")]⟩ = .ok ops) ∧
    Library.thankYou.renderProgram.execute
      ⟨.standard, .standard, .object [("message", .array [])]⟩ =
        .error (.typeMismatch "text" "text" (some .array)) := by
  have hwithin : closingLimits.Within .standard := by constructor <;> decide
  refine ⟨hwithin, ?_, ?_⟩
  · have hok : (Library.thankYou.renderProgram.execute
        ⟨closingLimits, .standard, .object [("message", .string "Goodbye")]⟩).isOk = true := by
      decide +kernel
    cases hrun : Library.thankYou.renderProgram.execute
        ⟨closingLimits, .standard, .object [("message", .string "Goodbye")]⟩ with
    | error e => rw [hrun] at hok; cases hok
    | ok ops => exact ⟨ops, rfl, (execute_of_within hwithin _ _ _).1 ops hrun⟩
  · exact (execute_of_within hwithin _ _ _).2 _ rfl rfl

end SlideDeck.RenderProgram
