import SlideDeck.Proofs.Render.Plan.Expressions

/-!
# Plans of instructions

Carrying out an instruction is a step, its plan and the action that comes of it. There are
four actions only, and those of branches and loops carry out blocks in a scope of their own.
-/

namespace SlideDeck

namespace Plan

/-- A plan that fails. -/
def fail {α : Type} (e : ExecutionError) : Plan α := done (.error e)

/-- An operand that is a colour; one that is left out is no colour. -/
def color : Option Expr → Plan (Option Color)
  | none => return none
  | some e => do done (Run.colorOf (← value 0 e))

/-- An operand that is a width, which counts as zero when it is negative. -/
def width (op : String) (absent : Float) : Option Expr → Plan Float
  | none => return absent
  | some e => do return Binary64.greatest (← number 0 op e) 0

end Plan

/-- The plan of a frame. -/
def FrameExpr.plan (f : FrameExpr) : Plan Frame := do
  let x ← Plan.number 0 "x" f.x
  let y ← Plan.number 0 "y" f.y
  let w ← Plan.number 0 "w" f.w
  let h ← Plan.number 0 "h" f.h
  if w < 0 then Plan.fail (.negativeExtent "width")
  if h < 0 then Plan.fail (.negativeExtent "height")
  return ⟨x, y, w, h⟩

/-- The plan of a point. -/
def PointExpr.plan (p : PointExpr) : Plan Point := do
  let x ← Plan.number 0 "connector" p.x
  let y ← Plan.number 0 "connector" p.y
  return ⟨x, y⟩

/-- The plan of a text. -/
def TextSpec.plan (theme : Theme) (t : TextSpec) : Plan TextBlock := do
  let content ← Plan.text "text" t.text
  let frame ← t.frame.plan
  let fontSize ← Plan.number 0 "fontSize" t.fontSize
  if fontSize ≤ 0 then Plan.fail (.negativeExtent "fontSize")
  let color ← Plan.color t.color
  return {
    frame := frame
    text := content
    fontFace :=
      match t.face with
      | .heading => theme.fonts.heading
      | .body => theme.fonts.body
    fontSize := fontSize
    bold := t.bold
    italic := t.italic
    color := color.getD theme.colors.text
    align := t.align
    valign := t.valign }

/-- The plan of a shape. -/
def ShapeSpec.plan (s : ShapeSpec) : Plan Shape := do
  let frame ← s.frame.plan
  let fill ← Plan.color s.fill
  let stroke ← Plan.color s.stroke
  let strokeWidth ← Plan.width "strokeWidth" 1 s.strokeWidth
  return ⟨s.kind, frame, fill, stroke, strokeWidth⟩

/-- The plan of a connector. -/
def ConnectorSpec.plan (theme : Theme) (c : ConnectorSpec) : Plan Connector := do
  let source ← c.source.plan
  let target ← c.target.plan
  let color ← Plan.color c.color
  let width ← Plan.width "connector" 1.5 c.width
  return ⟨source, target, color.getD theme.colors.text, width, c.head⟩

/-- What comes of an instruction once its operands are known. -/
inductive Action
  | bind (name : String) (value : Json)
  | draw (op : DrawOp)
  | branch (body : List Instruction)
  | loop (binding : String) (index : Option String) (items : List Json)
      (body : List Instruction)

/-- Carries out an action, given how blocks are carried out. -/
def Action.perform (limits : ExecutionLimits) (block : List Instruction → Run Unit) :
    Action → Run Unit
  | .bind name value => Run.bind name value
  | .draw op => Run.emit limits op
  | .branch body => Run.inScope [] (block body)
  | .loop binding index items body => Run.forEach binding index (block body) 0 items

/-- The plan of an instruction. -/
def Instruction.plan (input : RunInput) : Instruction → Plan Action
  | .bind name value => do return .bind name (← Plan.value 0 value)
  | .text t => do return .draw (.text (← t.plan input.theme))
  | .shape s => do return .draw (.shape (← s.plan))
  | .connector c => do return .draw (.connector (← c.plan input.theme))
  | .branch c a b => do return .branch (if (← Plan.value 0 c).truthy then a else b)
  | .each source binding index body => do
    let items ← Plan.done (Run.loopItems input.limits (← Plan.value 0 source))
    return .loop binding index items body

namespace Run

section Evaluations

variable {α β : Type}

theorem evaluate_run (make : List Scope → Eval α) (state : RunState) :
    (evaluate make).run.run state =
      (((make state.scopes).run.run state.steps).1,
        { state with steps := ((make state.scopes).run.run state.steps).2 }) := rfl

theorem evaluate_bind (x : Eval α) (next : α → Eval β) :
    (evaluate fun _ => x >>= next) =
      (evaluate fun _ => x) >>= fun a => evaluate fun _ => next a := by
  have hruns : ∀ state, (evaluate fun _ => x >>= next).run.run state =
      ((evaluate fun _ => x) >>= fun a => evaluate fun _ => next a).run.run state := by
    intro state
    rw [evaluate_run, run_bind_run, run_bind_run, evaluate_run]
    rcases x.run.run state.steps with ⟨_ | a, steps⟩ <;> rfl
  exact funext hruns

theorem evaluate_carryOut (evaluateOperand : Nat → Expr → Eval Json) (plan : Plan α) :
    (evaluate fun _ => plan.carryOut evaluateOperand) =
      plan.carryOut fun below e => evaluate fun _ => evaluateOperand below e := by
  induction plan with
  | done outcome => rfl
  | operand below e rest ih => exact (evaluate_bind _ _).trans (bind_congr ih)

/-- A step is taken or refused, and is counted either way. -/
theorem tick_cases (limits : ExecutionLimits) (depth : Nat) (state : RunState) :
    let ended := (evaluate fun _ => Eval.tick limits depth).run.run state
    ended.2 = { state with steps := state.steps + 1 } ∧
      ((ended.1 = .ok () ∧ state.steps + 1 ≤ limits.maxSteps ∧ depth ≤ limits.maxDepth) ∨
        ∃ e, ended.1 = .error e) := by
  dsimp only
  rw [evaluate_run, tick_run]
  refine ⟨rfl, ?_⟩
  split
  next => exact .inr ⟨_, rfl⟩
  next hsteps =>
    split
    next => exact .inr ⟨_, rfl⟩
    next hdepth => exact .inl ⟨rfl, by omega, by omega⟩

theorem depth_le_of_tick {limits : ExecutionLimits} {depth : Nat}
    (h : ∃ state, ((evaluate fun _ => Eval.tick limits depth).run.run state).1 = .ok ()) :
    depth ≤ limits.maxDepth := by
  obtain ⟨state, hok⟩ := h
  obtain ⟨_, ⟨_, _, hdepth⟩ | ⟨e, herror⟩⟩ := tick_cases limits depth state
  · exact hdepth
  · rw [hok] at herror
    cases herror

end Evaluations

/-- Binding a name touches the scopes only, and so does a refusal to bind it. -/
theorem exists_scopes_bind (name : String) (value : Json) (state : RunState) :
    ∃ scopes, ((bind name value).run.run state).2 = { state with scopes := scopes } := by
  obtain ⟨scopes, steps, ops⟩ := state
  unfold bind
  split
  next => exact ⟨scopes, rfl⟩
  next =>
    cases scopes with
    | nil => exact ⟨[], rfl⟩
    | cons scope outer => exact ⟨Scope.bind name value scope :: outer, rfl⟩

theorem exists_scopes_bindAll (bindings : List (String × Json)) (state : RunState) :
    ∃ scopes, ((bindAll bindings).run.run state).2 = { state with scopes := scopes } := by
  induction bindings generalizing state with
  | nil => exact ⟨state.scopes, rfl⟩
  | cons binding rest ih =>
      obtain ⟨name, value⟩ := binding
      obtain ⟨scopes, hfirst⟩ := exists_scopes_bind name value state
      unfold bindAll
      rw [run_bind_run]
      rcases hrun : (bind name value).run.run state with ⟨_ | _, after⟩
      · rw [hrun] at hfirst
        exact ⟨scopes, hfirst⟩
      · rw [hrun] at hfirst
        obtain rfl : after = { state with scopes := scopes } := hfirst
        exact ih { state with scopes := scopes }

variable (input : RunInput) (depth : Nat)

/-- How an instruction evaluates its operands. -/
def operandBelow (below : Nat) (e : Expr) : Run Json := operand input (depth + below) e

theorem number_eq (op : String) (e : Expr) :
    number input depth op e = (Plan.number 0 op e).carryOut (operandBelow input depth) := rfl

theorem frame_eq (f : FrameExpr) :
    frame input depth f = f.plan.carryOut (operandBelow input depth) := by
  simp only [frame, FrameExpr.plan, number_eq, Plan.carryOut_bind]
  refine bind_congr fun x => bind_congr fun y => bind_congr fun w => bind_congr fun h => ?_
  split
  · rfl
  · split <;> rfl

theorem point_eq (p : PointExpr) :
    point input depth p = p.plan.carryOut (operandBelow input depth) := by
  simp only [point, PointExpr.plan, number_eq, Plan.carryOut_bind, Plan.carryOut_pure]

theorem color_eq (c : Option Expr) :
    color input depth c = (Plan.color c).carryOut (operandBelow input depth) := by
  cases c <;> rfl

theorem width_eq (op : String) (absent : Float) (w : Option Expr) :
    width input depth op absent w =
      (Plan.width op absent w).carryOut (operandBelow input depth) := by
  cases w with
  | none => rfl
  | some e => simp only [width, Plan.width, number_eq, Plan.carryOut_bind, Plan.carryOut_pure]

theorem text_eq (t : TextSpec) :
    text input depth t =
      (t.plan input.theme).carryOut (operandBelow input depth) >>= fun block =>
        emit input.limits (.text block) := by
  simp only [text, TextSpec.plan, Plan.text, number_eq, frame_eq, color_eq, Plan.carryOut_bind,
    Plan.carryOut_value, bind_assoc]
  refine bind_congr fun _ => bind_congr fun content => bind_congr fun frame =>
    bind_congr fun fontSize => ?_
  split
  next => rfl
  next =>
    rw [Plan.carryOut_bind, bind_assoc]
    exact bind_congr fun color => (pure_bind _ _).symm

theorem shape_eq (s : ShapeSpec) :
    shape input depth s =
      s.plan.carryOut (operandBelow input depth) >>= fun shape =>
        emit input.limits (.shape shape) := by
  simp only [shape, ShapeSpec.plan, frame_eq, color_eq, width_eq, Plan.carryOut_bind,
    Plan.carryOut_pure, bind_assoc, pure_bind]

theorem connector_eq (c : ConnectorSpec) :
    connector input depth c =
      (c.plan input.theme).carryOut (operandBelow input depth) >>= fun connector =>
        emit input.limits (.connector connector) := by
  simp only [connector, ConnectorSpec.plan, point_eq, color_eq, width_eq, Plan.carryOut_bind,
    Plan.carryOut_pure, bind_assoc, pure_bind]

/-- Carrying out an instruction is a step, its plan and the action that comes of it. -/
theorem instruction_eq (i : Instruction) :
    instruction input depth i = evaluate (fun _ => Eval.tick input.limits depth) >>= fun _ =>
      (i.plan input).carryOut (operandBelow input depth) >>= fun action =>
        action.perform input.limits (block input (depth + 1)) := by
  conv => lhs; unfold instruction
  refine bind_congr fun _ => ?_
  cases i with
  | bind name value => simp [Instruction.plan, operandBelow, Action.perform]
  | text t => simp [Instruction.plan, text_eq, Action.perform]
  | shape s => simp [Instruction.plan, shape_eq, Action.perform]
  | connector c => simp [Instruction.plan, connector_eq, Action.perform]
  | branch c a b =>
      simp only [Instruction.plan, Plan.carryOut_bind, Plan.carryOut_value,
        Plan.carryOut_pure, bind_assoc, pure_bind]
      refine bind_congr fun value => ?_
      split <;> rfl
  | each source binding index body =>
      simp only [Instruction.plan, Plan.carryOut_bind, Plan.carryOut_value,
        Plan.carryOut_done, Plan.carryOut_pure, bind_assoc, pure_bind]
      rfl

end Run

theorem RenderProgram.execute_eq (p : RenderProgram) (input : RunInput) :
    p.execute input = (p.run input).1.map fun _ => (p.run input).2.ops := rfl

/-- A drawing is what its run has drawn. -/
theorem RenderProgram.ops_of_execute {p : RenderProgram} {input : RunInput} {ops : List DrawOp}
    (h : p.execute input = .ok ops) : (p.run input).2.ops = ops := by
  rw [execute_eq] at h
  cases hrun : (p.run input).1 with
  | error e =>
      rw [hrun] at h
      cases h
  | ok done =>
      rw [hrun] at h
      exact Except.ok.inj h

end SlideDeck
