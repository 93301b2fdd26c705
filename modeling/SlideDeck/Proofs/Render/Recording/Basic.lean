import SlideDeck.Proofs.Render.Plan.Instructions

/-!
# Recordings of runs

A recording of a run keeps, next to the state, what has been evaluated and at which depth,
how much a drawing held and how often each loop has run its body. It is made by carrying out
plans with every operand recorded, so nothing is evaluated that it does not see; and without
its events it is the run. It ends where the depth is used up, as the run does.
-/

namespace SlideDeck

/-- What happens in a run, as far as limits bear on it. -/
inductive Event
  | evaluation (subject : Expr ⊕ Instruction) (depth : Nat)
  /-- A drawing has an operation more, and holds this many. -/
  | drawing (held : Nat)
  /-- A loop runs its body once more; the first time is number one. -/
  | round (number : Nat)

namespace Event

def isEvaluation : Event → Bool
  | evaluation _ _ => true
  | _ => false

/-- An event that the limits allow. -/
def Within (limits : ExecutionLimits) : Event → Prop
  | evaluation _ depth => depth ≤ limits.maxDepth
  | drawing held => held ≤ limits.maxDrawOps
  | round number => number ≤ limits.maxLoopItems

end Event

/-- The state of a run with the events that led to it. -/
structure Recording where
  state : RunState
  events : List Event

/-- The number of instructions and expressions that have been evaluated. -/
def Recording.evaluations (r : Recording) : Nat := r.events.countP Event.isEvaluation

/-- A computation on a recording that may fail. -/
abbrev Recorded (α : Type) := ExceptT ExecutionError (StateM Recording) α

namespace Recorded

variable {α : Type}

/-- A computation in which nothing happens that is recorded. -/
def silent (x : Run α) : Recorded α := ExceptT.mk fun r =>
  let (outcome, state) := x.run.run r.state
  (outcome, { r with state := state })

def note (event : Event) : Recorded Unit :=
  modify fun r => { r with events := r.events ++ [event] }

/-- Begins with an evaluation at a depth of nesting. -/
def enter (limits : ExecutionLimits) (depth : Nat) (subject : Expr ⊕ Instruction) :
    Recorded Unit := do
  silent (Run.evaluate fun _ => Eval.tick limits depth)
  note (.evaluation subject depth)

def emit (limits : ExecutionLimits) (op : DrawOp) : Recorded Unit := do
  silent (Run.emit limits op)
  note (.drawing (← get).state.ops.length)

/-- Carries out a computation in a new scope and closes the scope however it ends. -/
def inScope (bindings : List (String × Json)) (body : Recorded Unit) : Recorded Unit :=
  ExceptT.mk fun r =>
    let opened := { r with state := { r.state with scopes := [] :: r.state.scopes } }
    let (outcome, ended) := (silent (Run.bindAll bindings) >>= fun _ => body).run.run opened
    (outcome, { ended with state := { ended.state with scopes := ended.state.scopes.tail } })

/-- Runs a body once for each item, and notes each time. -/
def forEach (binding : String) (index : Option String) (body : Recorded Unit) :
    Nat → List Json → Recorded Unit
  | _, [] => return
  | i, item :: rest => do
    note (.round (i + 1))
    inScope ((binding, item) :: index.toList.map fun name => (name, .ofNat i)) body
    forEach binding index body (i + 1) rest

/-- Carries out instructions one after another. -/
def block (instruction : Instruction → Recorded Unit) : List Instruction → Recorded Unit
  | [] => return
  | i :: rest => do
    instruction i
    block instruction rest

end Recorded

/-- Evaluates an expression and records it with all its operands. -/
def Expr.record (input : RunInput) (scopes : List Scope) (depth : Nat) (e : Expr) :
    Recorded Json := do
  Recorded.enter input.limits depth (.inl e)
  if _h : depth ≤ input.limits.maxDepth then
    (e.plan input scopes).carryOut fun below operand =>
      record input scopes (depth + (below + 1)) operand
  else throw (.tooDeep input.limits.maxDepth)
termination_by input.limits.maxDepth + 1 - depth

/-- Evaluates an operand of an instruction over the open scopes. -/
def Recorded.operandBelow (input : RunInput) (depth below : Nat) (e : Expr) : Recorded Json := do
  e.record input (← get).state.scopes (depth + below + 1)

def Action.record (limits : ExecutionLimits) (block : List Instruction → Recorded Unit) :
    Action → Recorded Unit
  | .bind name value => Recorded.silent (Run.bind name value)
  | .draw op => Recorded.emit limits op
  | .branch body => Recorded.inScope [] (block body)
  | .loop binding index items body => Recorded.forEach binding index (block body) 0 items

/-- Carries out an instruction and records it with all that it leads to. -/
def Instruction.record (input : RunInput) (depth : Nat) (i : Instruction) : Recorded Unit := do
  Recorded.enter input.limits depth (.inr i)
  if _h : depth ≤ input.limits.maxDepth then
    let action ← (i.plan input).carryOut (Recorded.operandBelow input depth)
    action.record input.limits (Recorded.block fun i => record input (depth + 1) i)
  else throw (.tooDeep input.limits.maxDepth)
termination_by input.limits.maxDepth + 1 - depth

/-- Runs a program from the initial state and records all that happens. -/
def RenderProgram.record (p : RenderProgram) (input : RunInput) :
    Except ExecutionError Unit × Recording :=
  (Recorded.block (Instruction.record input 0) p.body).run.run ⟨.initial, []⟩

/-! ## Recordings without their events -/

/-- A recorded computation is another one that is not recorded, with events beside it. -/
def Erases {α : Type} (x : Recorded α) (y : Run α) : Prop :=
  ∀ r, y.run.run r.state = ((x.run.run r).1, (x.run.run r).2.state)

namespace Erases

variable {α β : Type}

theorem bind {x : Recorded α} {y : Run α} {next : α → Recorded β} {next' : α → Run β}
    (h : Erases x y)
    (hnext : ∀ a, (∃ state, (y.run.run state).1 = .ok a) → Erases (next a) (next' a)) :
    Erases (x >>= next) (y >>= next') := by
  intro r
  have hfirst := h r
  rw [run_bind_run, run_bind_run, hfirst]
  rcases hrun : x.run.run r with ⟨e | a, after⟩
  · rfl
  · rw [hrun] at hfirst
    exact hnext a ⟨r.state, congrArg Prod.fst hfirst⟩ after

theorem silent (x : Run α) : Erases (Recorded.silent x) x := fun _ => rfl

theorem note_after {x : Run Unit} (event : Recording → Event) :
    Erases (Recorded.silent x >>= fun _ => get >>= fun r => Recorded.note (event r)) x := by
  have hunit : x = x >>= fun _ => pure () := by rw [bind_pure_unit]
  conv => rhs; rw [hunit]
  exact (silent x).bind fun _ _ _ => rfl

theorem enter (limits : ExecutionLimits) (depth : Nat) (subject : Expr ⊕ Instruction) :
    Erases (Recorded.enter limits depth subject)
      (Run.evaluate fun _ => Eval.tick limits depth) :=
  note_after _

theorem emit (limits : ExecutionLimits) (op : DrawOp) :
    Erases (Recorded.emit limits op) (Run.emit limits op) :=
  note_after _

theorem inScope (bindings : List (String × Json)) {body : Recorded Unit} {body' : Run Unit}
    (h : Erases body body') :
    Erases (Recorded.inScope bindings body) (Run.inScope bindings body') := by
  intro r
  have hrun : ∀ state, (Run.inScope bindings body').run.run state =
      let ended := (Run.bindAll bindings >>= fun _ => body').run.run
        { state with scopes := [] :: state.scopes }
      (ended.1, { ended.2 with scopes := ended.2.scopes.tail }) := fun _ => rfl
  have hended : (Run.bindAll bindings >>= fun _ => body').run.run
      { r.state with scopes := [] :: r.state.scopes } = _ :=
    ((silent (Run.bindAll bindings)).bind fun _ _ => h)
      { r with state := { r.state with scopes := [] :: r.state.scopes } }
  rw [hrun, hended]
  rfl

theorem forEach (binding : String) (index : Option String) {body : Recorded Unit}
    {body' : Run Unit} (h : Erases body body') (i : Nat) (items : List Json) :
    Erases (Recorded.forEach binding index body i items)
      (Run.forEach binding index body' i items) := by
  induction items generalizing i with
  | nil => exact fun _ => rfl
  | cons item rest ih =>
      have hround : Erases (Recorded.note (.round (i + 1))) (pure ()) := fun _ => rfl
      exact hround.bind fun _ _ => (h.inScope _).bind fun _ _ => ih (i + 1)

theorem block {input : RunInput} {depth : Nat} {instruction : Instruction → Recorded Unit}
    (h : ∀ i, Erases (instruction i) (Run.instruction input depth i)) (body : List Instruction) :
    Erases (Recorded.block instruction body) (Run.block input depth body) := by
  induction body with
  | nil => exact fun _ => rfl
  | cons i rest ih => exact (h i).bind fun _ _ => ih

theorem carryOut {evaluate : Nat → Expr → Recorded Json} {evaluate' : Nat → Expr → Run Json}
    (h : ∀ below e, Erases (evaluate below e) (evaluate' below e)) (plan : Plan α) :
    Erases (plan.carryOut evaluate) (plan.carryOut evaluate') := by
  induction plan with
  | done outcome => exact fun _ => rfl
  | operand below e rest ih => exact (h below e).bind fun value _ => ih value

end Erases

theorem Expr.erases_record (input : RunInput) (scopes : List Scope) (depth : Nat) (e : Expr) :
    Erases (e.record input scopes depth) (Run.evaluate fun _ => e.eval input scopes depth) := by
  induction depth, e using Expr.record.induct input with
  | case1 depth e ih =>
      rw [record, eval_eq, Run.evaluate_bind]
      -- what follows the step is only reached when the step was granted, at a depth within
      -- the limits; there the recording goes on as the evaluation does
      refine (Erases.enter _ _ _).bind fun _ htick => ?_
      have hdepth := Run.depth_le_of_tick htick
      rw [dif_pos hdepth, Run.evaluate_carryOut]
      exact Erases.carryOut (ih hdepth) _

theorem Instruction.erases_record (input : RunInput) (depth : Nat) (i : Instruction) :
    Erases (i.record input depth) (Run.instruction input depth i) := by
  induction depth, i using Instruction.record.induct input with
  | case1 depth i ih =>
      rw [record, Run.instruction_eq]
      refine (Erases.enter _ _ _).bind fun _ htick => ?_
      have hdepth := Run.depth_le_of_tick htick
      rw [dif_pos hdepth]
      have hoperand : ∀ below e, Erases (Recorded.operandBelow input depth below e)
          (Run.operandBelow input depth below e) :=
        fun below e r => Expr.erases_record input r.state.scopes (depth + below + 1) e r
      refine (Erases.carryOut hoperand _).bind fun action _ => ?_
      have hblock := Erases.block (ih hdepth)
      cases action with
      | bind name value => exact .silent _
      | draw op => exact .emit _ op
      | branch body => exact .inScope [] (hblock body)
      | loop binding index items body => exact .forEach binding index (hblock body) 0 items

end SlideDeck
