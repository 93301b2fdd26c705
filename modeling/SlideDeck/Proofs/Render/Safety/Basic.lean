import SlideDeck.Proofs.Render.Plan.Expressions

/-!
# Computations without mistakes

A run fails because its data is of the wrong kind, because a limit is reached, or because of a
mistake in its program: a name that nothing binds, a name that cannot be bound, a colour that is
none, a divisor that is zero. Whether there are mistakes can be seen from the program. This module
holds what it means that a computation makes none, and how that is put together along a plan.
-/

namespace SlideDeck

/-- The failure is a mistake in the program, of a name, a colour or a divisor. -/
def ExecutionError.isMistake : ExecutionError → Bool
  | .unknownVariable _ | .invalidBinding _ | .invalidColor _ | .divisionByZero => true
  | _ => false

/-! ## Outcomes -/

/-- An outcome has a property when it is a success, and is no mistake when it is a failure. -/
def Faultless {α : Type} (q : α → Prop) : Except ExecutionError α → Prop
  | .ok a => q a
  | .error e => e.isMistake = false

namespace Faultless

variable {α β : Type} {q q' : α → Prop} {r : β → Prop} {outcome : Except ExecutionError α}

theorem mono (h : Faultless q outcome) (hq : ∀ a, q a → q' a) : Faultless q' outcome := by
  cases outcome with
  | error e => exact h
  | ok a => exact hq a h

theorem bind {next : α → Except ExecutionError β} (h : Faultless q outcome)
    (hnext : ∀ a, q a → Faultless r (next a)) : Faultless r (outcome >>= next) := by
  cases outcome with
  | error e => exact h
  | ok a => exact hnext a h

/-- A fold makes no mistake when its steps make none. -/
theorem foldlM {step : β → α → Except ExecutionError β}
    (hstep : ∀ built a, Faultless (fun _ => True) (step built a)) (xs : List α) {built : β} :
    Faultless (fun _ => True) (xs.foldlM step built) := by
  induction xs generalizing built with
  | nil => exact True.intro
  | cons a rest ih =>
      rw [List.foldlM_cons]
      exact (hstep built a).bind fun _ _ => ih

theorem of_eq_ok {a : α} (h : Faultless q outcome) (hok : outcome = .ok a) : q a := by
  subst hok
  exact h

end Faultless

/-! ## Computations -/

/-- From every state of one kind a computation comes to a result and a state as stated, or fails
without a mistake. -/
def Safe {σ α : Type} (pre : σ → Prop) (post : α → σ → Prop)
    (x : ExceptT ExecutionError (StateM σ) α) : Prop :=
  ∀ state, pre state → Faultless (fun a => post a (x.run.run state).2) (x.run.run state).1

namespace Safe

variable {σ α β : Type} {pre pre' : σ → Prop} {middle post' : α → σ → Prop} {post : β → σ → Prop}

theorem mono {x : ExceptT ExecutionError (StateM σ) α} (h : Safe pre middle x)
    (hpre : ∀ state, pre' state → pre state)
    (hpost : ∀ a state, middle a state → post' a state) : Safe pre' post' x :=
  fun state hstate => (h state (hpre state hstate)).mono fun a => hpost a _

theorem bind {x : ExceptT ExecutionError (StateM σ) α}
    {next : α → ExceptT ExecutionError (StateM σ) β} (h : Safe pre middle x)
    (hnext : ∀ a, Safe (middle a) post (next a)) : Safe pre post (x >>= next) := by
  intro state hpre
  have hfirst := h state hpre
  rw [run_bind_run]
  rcases hrun : x.run.run state with ⟨e | a, after⟩
  · rw [hrun] at hfirst
    exact hfirst
  · rw [hrun] at hfirst
    exact hnext a after hfirst

/-- An outcome that leaves the state as it is. -/
theorem of_outcome {q : α → Prop} {outcome : Except ExecutionError α} (h : Faultless q outcome) :
    Safe pre (fun a state => q a ∧ pre state)
      (ExceptT.mk (pure outcome) : ExceptT ExecutionError (StateM σ) α) :=
  fun _ hpre => h.mono fun _ ha => ⟨ha, hpre⟩

/-- Taking a step fails for the limits only. -/
theorem tick (limits : ExecutionLimits) (depth : Nat) :
    Safe (fun _ => True) (fun _ _ => True) (Eval.tick limits depth) := by
  intro steps _
  rw [tick_run]
  dsimp only
  split
  · rfl
  · split
    · rfl
    · exact True.intro

end Safe

/-! ## Plans -/

namespace Plan

variable {α β σ : Type}

/-- A plan makes no mistake as long as its operands are among some expressions and their values
are as stated, and what it comes to has a property. -/
def Faultless (values : Expr → Json → Prop) (exprs : List Expr) (q : α → Prop) : Plan α → Prop
  | done outcome => SlideDeck.Faultless q outcome
  | operand _ e next =>
    e ∈ exprs ∧ ∀ value, values e value → (next value).Faultless values exprs q

namespace Faultless

variable {values : Expr → Json → Prop} {exprs : List Expr} {q : α → Prop} {r : β → Prop}
  {plan : Plan α} {e : Expr}

theorem done {outcome : Except ExecutionError α} (h : SlideDeck.Faultless q outcome) :
    (done outcome).Faultless values exprs q := h

theorem mono {q' : α → Prop} (h : plan.Faultless values exprs q) (hq : ∀ a, q a → q' a) :
    plan.Faultless values exprs q' := by
  induction plan with
  | done outcome => exact SlideDeck.Faultless.mono h hq
  | operand below e rest ih => exact ⟨h.1, fun value hvalue => ih value (h.2 value hvalue)⟩

theorem bind {next : α → Plan β} (h : plan.Faultless values exprs q)
    (hnext : ∀ a, q a → (next a).Faultless values exprs r) :
    (plan >>= next).Faultless values exprs r := by
  induction plan with
  | done outcome =>
      cases outcome with
      | error e => exact h
      | ok a => exact hnext a h
  | operand below e rest ih => exact ⟨h.1, fun value hvalue => ih value (h.2 value hvalue)⟩

theorem value (he : e ∈ exprs) (below : Nat) :
    (value below e).Faultless values exprs (values e) :=
  ⟨he, fun _ hvalue => hvalue⟩

theorem number (he : e ∈ exprs) (below : Nat) (op : String) :
    (number below op e).Faultless values exprs fun x => ∃ v, values e v ∧ v.toFloat? = some x := by
  apply (value he below).bind
  intro v hv
  cases v with
  | number n => exact ⟨.number n, hv, rfl⟩
  | null | bool _ | string _ | array _ | object _ => exact rfl

theorem text (he : e ∈ exprs) (op : String) :
    (text op e).Faultless values exprs fun _ => True := by
  apply (value he 0).bind
  intro v _
  cases v with
  | bool _ | number _ | string _ => exact True.intro
  | null | array _ | object _ => exact rfl

/-- What every step keeps holds of what has been fed, however early the feeding ends. -/
theorem feed {inv : σ → Prop} {step : σ → Json → Except ExecutionError (ForInStep σ)}
    (hstep : ∀ built v, inv built →
      SlideDeck.Faultless (fun next => inv next.value) (step built v))
    (below : Nat) {xs : List Expr} (hxs : ∀ x ∈ xs, x ∈ exprs) {built : σ} (h : inv built) :
    (feed below step built xs).Faultless values exprs inv := by
  induction xs generalizing built with
  | nil => exact h
  | cons x rest ih =>
      obtain ⟨hx, hrest⟩ := List.forall_mem_cons.mp hxs
      apply (value hx below).bind
      intro v _
      apply (done (hstep built v h)).bind
      intro next hinv
      cases next with
      | yield built => exact ih hrest hinv
      | done built => exact hinv

theorem feed_any {step : σ → Json → Except ExecutionError (ForInStep σ)}
    (hstep : ∀ built v, SlideDeck.Faultless (fun _ => True) (step built v)) (below : Nat)
    {xs : List Expr} (hxs : ∀ x ∈ xs, x ∈ exprs) {built : σ} :
    (Plan.feed below step built xs).Faultless values exprs fun _ => True :=
  feed (fun built v _ => hstep built v) below hxs True.intro

/-- Carrying out a plan makes no mistake when evaluating its operands makes none. -/
theorem carryOut_bind {evaluate : Nat → Expr → ExceptT ExecutionError (StateM σ) Json}
    {pre : σ → Prop} {post : β → σ → Prop} {next : α → ExceptT ExecutionError (StateM σ) β}
    (h : plan.Faultless values exprs q)
    (hevaluate : ∀ below, ∀ e ∈ exprs,
      Safe pre (fun v state => values e v ∧ pre state) (evaluate below e))
    (hnext : ∀ a, q a → Safe pre post (next a)) :
    Safe pre post (plan.carryOut evaluate >>= next) := by
  induction plan with
  | done outcome =>
      apply (Safe.of_outcome h).bind
      intro a state hstate
      exact hnext a hstate.1 state hstate.2
  | operand below e rest ih =>
      have hassoc : (Plan.operand below e rest).carryOut evaluate >>= next =
          evaluate below e >>= fun value => (rest value).carryOut evaluate >>= next :=
        bind_assoc _ _ _
      rw [hassoc]
      -- the rest makes no mistake for values as stated, and the operand has no other
      apply (hevaluate below e h.1).bind
      intro v state hstate
      exact ih v (h.2 v hstate.1) state hstate.2

theorem carryOut {evaluate : Nat → Expr → ExceptT ExecutionError (StateM σ) Json}
    {pre : σ → Prop} (h : plan.Faultless values exprs q)
    (hevaluate : ∀ below, ∀ e ∈ exprs,
      Safe pre (fun v state => values e v ∧ pre state) (evaluate below e)) :
    Safe pre (fun a state => q a ∧ pre state) (plan.carryOut evaluate) := by
  rw [← bind_pure (plan.carryOut evaluate)]
  exact h.carryOut_bind hevaluate fun a ha state hpre => ⟨ha, hpre⟩

end Faultless

end Plan

end SlideDeck
