import SlideDeck.Proofs.Render.ValueSize
import SlideDeck.Render.Run

/-!
# Computations in lock step

Two runs of one program are compared whose inputs may differ in the limits and in the
data. They are in lock step when they come to the same outcome and the same state from
every state; where the first has tighter limits it may instead be stopped by one of
them. This module holds the relation, its composition, and the checks against limits.
-/

namespace SlideDeck

/-- Limits none of which is above the limit of the same name. -/
structure ExecutionLimits.Within (limits greater : ExecutionLimits) : Prop where
  steps : limits.maxSteps ≤ greater.maxSteps
  drawOps : limits.maxDrawOps ≤ greater.maxDrawOps
  loopItems : limits.maxLoopItems ≤ greater.maxLoopItems
  depth : limits.maxDepth ≤ greater.maxDepth
  valueBytes : limits.maxValueBytes ≤ greater.maxValueBytes

/-- Limits that are the same, or tighter where that is allowed. -/
def ExecutionLimits.Tightens (tight : Prop) (limits greater : ExecutionLimits) : Prop :=
  limits = greater ∨ tight ∧ limits.Within greater

/-- The outcome is a failure that comes from a limit. -/
def IsStopped {α : Type} (outcome : Except ExecutionError α) : Prop :=
  ∃ e, outcome = .error e ∧ e.isBudget = true

/-- Two outcomes are the same, or the first is stopped where that is allowed. -/
def OutcomesMatch {α : Type} (tight : Prop) (left right : Except ExecutionError α) : Prop :=
  left = right ∨ tight ∧ IsStopped left

/-- From every state two computations come to the same outcome and the same state, or
the first is stopped where that is allowed. -/
def InStep {σ α : Type} (tight : Prop)
    (left right : ExceptT ExecutionError (StateM σ) α) : Prop :=
  ∀ state, left.run.run state = right.run.run state ∨
    tight ∧ IsStopped (left.run.run state).1

section Composition

variable {σ α β : Type} {tight : Prop}

theorem isStopped_error {e : ExecutionError} (h : e.isBudget = true) :
    IsStopped (.error e : Except ExecutionError α) := ⟨e, rfl, h⟩

theorem OutcomesMatch.refl (outcome : Except ExecutionError α) :
    OutcomesMatch tight outcome outcome := .inl rfl

theorem OutcomesMatch.bind {left right : Except ExecutionError α}
    {next next' : α → Except ExecutionError β} (h : OutcomesMatch tight left right)
    (hnext : ∀ a, OutcomesMatch tight (next a) (next' a)) :
    OutcomesMatch tight (left >>= next) (right >>= next') := by
  rcases h with rfl | ⟨htight, e, rfl, he⟩
  · cases left with
    | error e => exact .refl _
    | ok a => exact hnext a
  · exact .inr ⟨htight, isStopped_error he⟩

/-- A sequence succeeds when its first part does and the rest does with the result. -/
theorem bind_eq_ok_iff {ε : Type} {x : Except ε α} {next : α → Except ε β} {b : β} :
    (x >>= next) = .ok b ↔ ∃ a, x = .ok a ∧ next a = .ok b := by
  cases x with
  | error e => exact iff_of_false nofun nofun
  | ok a => exact ⟨fun h => ⟨a, rfl, h⟩, fun ⟨_, rfl, h⟩ => h⟩

theorem InStep.refl (x : ExceptT ExecutionError (StateM σ) α) : InStep tight x x :=
  fun _ => .inl rfl

/-- A computation followed by another, from a state: the second starts where the first
ended, unless the first failed. -/
theorem run_bind_run (x : ExceptT ExecutionError (StateM σ) α)
    (next : α → ExceptT ExecutionError (StateM σ) β) (state : σ) :
    (x >>= next).run.run state =
      match x.run.run state with
      | (.ok a, middle) => (next a).run.run middle
      | (.error e, middle) => (.error e, middle) := by
  simp only [ExceptT.run_bind, StateT.run_bind]
  rcases x.run.run state with ⟨_ | _, _⟩ <;> rfl

theorem InStep.bind {left right : ExceptT ExecutionError (StateM σ) α}
    {next next' : α → ExceptT ExecutionError (StateM σ) β} (h : InStep tight left right)
    (hnext : ∀ a, InStep tight (next a) (next' a)) :
    InStep tight (left >>= next) (right >>= next') := by
  intro state
  rw [run_bind_run, run_bind_run]
  rcases h state with heq | ⟨htight, e, hstop, he⟩
  · rw [← heq]
    rcases left.run.run state with ⟨e | a, middle⟩
    · exact .inl rfl
    · exact hnext a middle
  · rcases hrun : left.run.run state with ⟨outcome, middle⟩
    rw [hrun] at hstop
    subst hstop
    exact .inr ⟨htight, isStopped_error he⟩

theorem InStep.of_outcome {left right : Except ExecutionError α}
    (h : OutcomesMatch tight left right) :
    InStep tight (ExceptT.mk (pure left) : ExceptT ExecutionError (StateM σ) α)
      (ExceptT.mk (pure right)) := by
  intro state
  rcases h with rfl | hstop
  · exact .inl rfl
  · exact .inr hstop

end Composition

/-! ## Checks against the limits -/

section Limits

variable {tight : Prop} {limits greater : ExecutionLimits}

/-- A step is counted before either limit is looked at. -/
theorem tick_run (limits : ExecutionLimits) (depth steps : Nat) :
    (Eval.tick limits depth).run.run steps =
      (if limits.maxSteps < steps + 1 then .error (.stepBudget limits.maxSteps)
        else if limits.maxDepth < depth then .error (.tooDeep limits.maxDepth)
        else .ok (), steps + 1) := by
  have hmodify : (modify (· + 1) : Eval Unit).run.run steps = (.ok (), steps + 1) := rfl
  have hget : (get : Eval Nat).run.run (steps + 1) = (.ok (steps + 1), steps + 1) := rfl
  simp only [Eval.tick, run_bind_run, hmodify, hget]
  split
  · rfl
  · split <;> rfl

theorem tick_inStep (h : limits.Tightens tight greater) (depth : Nat) :
    InStep tight (Eval.tick limits depth) (Eval.tick greater depth) := by
  intro steps
  rcases h with rfl | ⟨htight, hwithin⟩
  · exact .inl rfl
  · have hsteps := hwithin.steps
    have hdepth := hwithin.depth
    simp only [tick_run]
    by_cases hover : limits.maxSteps < steps + 1
    · rw [if_pos hover]
      exact .inr ⟨htight, isStopped_error rfl⟩
    · by_cases hdeep : limits.maxDepth < depth
      · rw [if_neg hover, if_pos hdeep]
        exact .inr ⟨htight, isStopped_error rfl⟩
      · left
        rw [if_neg hover, if_neg hdeep, if_neg (by omega), if_neg (by omega)]

theorem fits_match (h : limits.Tightens tight greater) (size : Nat) :
    OutcomesMatch tight (Eval.fits limits size) (Eval.fits greater size) := by
  rcases h with rfl | ⟨htight, hwithin⟩
  · exact .refl _
  · have hbytes := hwithin.valueBytes
    unfold Eval.fits
    by_cases hover : limits.maxValueBytes < size
    · rw [if_pos hover]
      exact .inr ⟨htight, isStopped_error rfl⟩
    · left
      rw [if_neg hover, if_neg (by omega)]

/-- The next operand of a list is charged the same under a greater limit, or it is
refused under the tighter one. -/
theorem listStep_match (h : limits.Tightens tight greater) (built : List Json × Nat)
    (value : Json) :
    OutcomesMatch tight (listStep limits built value) (listStep greater built value) := by
  rcases h with rfl | ⟨htight, hwithin⟩
  · exact .refl _
  · simp only [listStep]
    by_cases hover : limits.maxValueBytes < built.2 + value.cappedSize limits.maxValueBytes
    · refine .inr ⟨htight, .valueBudget limits.maxValueBytes, ?_, rfl⟩
      simp only [Eval.fits, if_pos hover]
      rfl
    -- the charge was not capped, so a greater cap does not change it
    · rw [Json.cappedSize_eq_of_le hwithin.valueBytes (by omega)]
      exact (fits_match (.inr ⟨htight, hwithin⟩) _).bind fun _ => .refl _

theorem concatStep_match (h : limits.Tightens tight greater) (built : String) (value : Json) :
    OutcomesMatch tight (concatStep limits built value) (concatStep greater built value) :=
  (OutcomesMatch.refl _).bind fun _ => (fits_match h _).bind fun _ => .refl _

theorem joinStep_match (h : limits.Tightens tight greater) (sep : String)
    (built : List String × Nat) (value : Json) :
    OutcomesMatch tight (joinStep limits sep built value) (joinStep greater sep built value) := by
  cases value with
  | null => exact .refl _
  | bool _ | number _ | string _ | array _ | object _ =>
      refine (OutcomesMatch.refl _).bind fun part => ?_
      split
      · exact .refl _
      · exact (fits_match h _).bind fun _ => .refl _

theorem loopItems_match (h : limits.Tightens tight greater) (value : Json) :
    OutcomesMatch tight (Run.loopItems limits value) (Run.loopItems greater value) := by
  rcases h with rfl | ⟨htight, hwithin⟩
  · exact .refl _
  · have hloop := hwithin.loopItems
    cases value with
    | array items =>
        simp only [Run.loopItems]
        by_cases hover : limits.maxLoopItems < items.length
        · rw [if_pos hover]
          exact .inr ⟨htight, isStopped_error rfl⟩
        · left
          rw [if_neg hover, if_neg (by omega)]
    | null | bool _ | number _ | string _ | object _ => exact .refl _

/-- The limit on operations is looked at before one is added. -/
theorem emit_run (limits : ExecutionLimits) (op : DrawOp) (state : RunState) :
    (Run.emit limits op).run.run state =
      if limits.maxDrawOps ≤ state.ops.length then
        (.error (.drawBudget limits.maxDrawOps), state)
      else (.ok (), { state with ops := state.ops ++ [op] }) := by
  have hget : (get : Run RunState).run.run state = (.ok state, state) := rfl
  simp only [Run.emit, run_bind_run, hget]
  split <;> rfl

theorem emit_inStep (h : limits.Tightens tight greater) (op : DrawOp) :
    InStep tight (Run.emit limits op) (Run.emit greater op) := by
  intro state
  rcases h with rfl | ⟨htight, hwithin⟩
  · exact .inl rfl
  · have hops := hwithin.drawOps
    simp only [emit_run]
    by_cases hover : limits.maxDrawOps ≤ state.ops.length
    · rw [if_pos hover]
      exact .inr ⟨htight, isStopped_error rfl⟩
    · left
      rw [if_neg hover, if_neg (by omega)]

end Limits

end SlideDeck
