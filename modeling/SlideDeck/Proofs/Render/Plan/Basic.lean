import SlideDeck.Proofs.Render.Lockstep.Basic

/-!
# Plans

What an expression or an instruction does between two operands depends on the values that
it has so far and on nothing else. A plan says just this: which operand comes next, how deep
below, and what follows from the value. Whoever knows how operands are evaluated can carry
it out, so one plan serves a run, a recording of it and what is proved about either.
-/

namespace SlideDeck

/-- A computation as a plan. It has an outcome, or it has an operand evaluated some levels
below the next one and goes on with the value. -/
inductive Plan (α : Type)
  | done (outcome : Except ExecutionError α)
  | operand (below : Nat) (e : Expr) (next : Json → Plan α)

namespace Plan

variable {α β σ : Type}

/-- Goes on from where a plan succeeds. -/
def bind : Plan α → (α → Plan β) → Plan β
  | done (.ok a), next => next a
  | done (.error e), _ => done (.error e)
  | operand below e rest, next => operand below e fun value => (rest value).bind next

instance : Monad Plan where
  pure a := done (.ok a)
  bind := bind

/-- The value of an operand. -/
def value (below : Nat) (e : Expr) : Plan Json := operand below e fun value => done (.ok value)

/-- An operand that has to be a number. -/
def number (below : Nat) (op : String) (e : Expr) : Plan Float := do
  done (numberOf op (← value below e))

/-- An operand that has to have a text. -/
def text (op : String) (e : Expr) : Plan String := do
  done (textOf op (← value 0 e))

/-- Feeds the values of operands to a step one after another, until it has enough. -/
def feed (below : Nat) (step : σ → Json → Except ExecutionError (ForInStep σ)) (built : σ) :
    List Expr → Plan σ
  | [] => return built
  | e :: rest => do
    let value ← value below e
    match ← done (step built value) with
    | .yield built => feed below step built rest
    | .done built => return built

/-- Carries out a plan, given how its operands are evaluated. -/
def carryOut (evaluate : Nat → Expr → ExceptT ExecutionError (StateM σ) Json) :
    Plan α → ExceptT ExecutionError (StateM σ) α
  | done outcome => ExceptT.mk (pure outcome)
  | operand below e next => do carryOut evaluate (next (← evaluate below e))

section CarryOut

variable {evaluate : Nat → Expr → ExceptT ExecutionError (StateM σ) Json}

@[simp]
theorem carryOut_pure (a : α) : carryOut evaluate (pure a) = pure a := rfl

@[simp]
theorem carryOut_done (outcome : Except ExecutionError α) :
    carryOut evaluate (done outcome) = ExceptT.mk (pure outcome) := rfl

@[simp]
theorem carryOut_value (below : Nat) (e : Expr) :
    carryOut evaluate (value below e) = evaluate below e :=
  bind_pure (evaluate below e)

@[simp]
theorem carryOut_bind (plan : Plan α) (next : α → Plan β) :
    carryOut evaluate (plan >>= next) =
      carryOut evaluate plan >>= fun a => carryOut evaluate (next a) := by
  induction plan with
  | done outcome =>
      cases outcome with
      | error e => rfl
      | ok a => exact (pure_bind a fun a => carryOut evaluate (next a)).symm
  | operand below e rest ih =>
      exact (bind_congr ih).trans
        (bind_assoc (evaluate below e) _ fun a => carryOut evaluate (next a)).symm

end CarryOut

/-- Whenever a plan succeeds, whatever the values of its operands, the result has a
property. -/
def Ensures (q : α → Prop) : Plan α → Prop
  | done outcome => ∀ a, outcome = .ok a → q a
  | operand _ _ next => ∀ value, (next value).Ensures q

namespace Ensures

variable {q : α → Prop} {r : β → Prop} {plan : Plan α}

theorem pure {a : α} (h : q a) : (pure a : Plan α).Ensures q := by
  rintro _ ⟨⟩
  exact h

theorem trivial (plan : Plan α) : plan.Ensures fun _ => True := by
  induction plan with
  | done _ => exact fun _ _ => True.intro
  | operand _ _ _ ih => exact ih

theorem bind {next : α → Plan β} (h : plan.Ensures q) (hnext : ∀ a, q a → (next a).Ensures r) :
    (plan >>= next).Ensures r := by
  induction plan with
  | done outcome =>
      cases outcome with
      | error e => exact nofun
      | ok a => exact hnext a (h a rfl)
  | operand below e rest ih => exact fun value => ih value (h value)

end Ensures

end Plan

/-! ## Where computations lead -/

/-- From every state of one kind a computation leads to a state of a second kind when it
succeeds, and of a third kind when it fails. -/
def Leads {σ α : Type} (pre post failed : σ → Prop)
    (x : ExceptT ExecutionError (StateM σ) α) : Prop :=
  ∀ state, pre state →
    match (x.run.run state).1 with
    | .ok _ => post (x.run.run state).2
    | .error _ => failed (x.run.run state).2

namespace Leads

variable {σ α β : Type} {pre middle post failed : σ → Prop}

theorem bind {x : ExceptT ExecutionError (StateM σ) α}
    {next : α → ExceptT ExecutionError (StateM σ) β} (h : Leads pre middle failed x)
    (hnext : ∀ a, Leads middle post failed (next a)) : Leads pre post failed (x >>= next) := by
  intro state hpre
  have hfirst := h state hpre
  rw [run_bind_run]
  rcases hrun : x.run.run state with ⟨_ | a, after⟩
  · rw [hrun] at hfirst
    exact hfirst
  · rw [hrun] at hfirst
    exact hnext a after hfirst

/-- What holds of every success and of every failure holds however a computation ends. -/
theorem always {x : ExceptT ExecutionError (StateM σ) α} (h : Leads pre post failed x)
    (hpost : ∀ state, post state → failed state) {state : σ} (hpre : pre state) :
    failed (x.run.run state).2 := by
  have hended := h state hpre
  cases houtcome : (x.run.run state).1 with
  | error e => rwa [houtcome] at hended
  | ok a =>
      rw [houtcome] at hended
      exact hpost _ hended

theorem of_always {x : ExceptT ExecutionError (StateM σ) α}
    (h : ∀ state, pre state → post (x.run.run state).2) : Leads pre post post x := by
  intro state hpre
  cases (x.run.run state).1 with
  | error e => exact h state hpre
  | ok a => exact h state hpre

theorem outcome (outcome : Except ExecutionError α) (hpost : ∀ state, pre state → post state)
    (hfailed : ∀ state, pre state → failed state) :
    Leads pre post failed (ExceptT.mk (pure outcome)) := by
  intro state hpre
  cases outcome with
  | error e => exact hfailed state hpre
  | ok a => exact hpost state hpre

/-- What a plan leads to as long as its operands lead nowhere new: where the rest leads from
whatever it ensures. -/
theorem carryOut_bind {evaluate : Nat → Expr → ExceptT ExecutionError (StateM σ) Json}
    {q : α → Prop} {plan : Plan α} {next : α → ExceptT ExecutionError (StateM σ) β}
    (hfailed : ∀ state, pre state → failed state)
    (hevaluate : ∀ below e, Leads pre pre failed (evaluate below e)) (hplan : plan.Ensures q)
    (hnext : ∀ a, q a → Leads pre post failed (next a)) :
    Leads pre post failed (plan.carryOut evaluate >>= next) := by
  induction plan with
  | done outcome =>
      intro state hpre
      cases outcome with
      | error e => exact hfailed state hpre
      | ok a => exact hnext a (hplan a rfl) state hpre
  | operand below e rest ih =>
      have hassoc : (Plan.operand below e rest).carryOut evaluate >>= next =
          evaluate below e >>= fun value => (rest value).carryOut evaluate >>= next :=
        bind_assoc _ _ _
      rw [hassoc]
      exact (hevaluate below e).bind fun value => ih value (hplan value)

theorem carryOut {evaluate : Nat → Expr → ExceptT ExecutionError (StateM σ) Json}
    (hfailed : ∀ state, pre state → failed state)
    (hevaluate : ∀ below e, Leads pre pre failed (evaluate below e)) (plan : Plan α) :
    Leads pre pre failed (plan.carryOut evaluate) := by
  rw [← bind_pure (plan.carryOut evaluate)]
  exact carryOut_bind hfailed hevaluate (Plan.Ensures.trivial plan) fun a _ =>
    .outcome (.ok a) (fun _ hpre => hpre) hfailed

end Leads

end SlideDeck
