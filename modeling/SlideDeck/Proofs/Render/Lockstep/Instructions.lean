import SlideDeck.Proofs.Render.Lockstep.Expressions

/-!
# Runs in lock step

Instructions and blocks are carried out in lock step under inputs that agree on all
paths inside them, and so are whole programs.
-/

namespace SlideDeck

namespace Run

section Operands

variable {tight : Prop} {left right : RunInput} {exprs : List Expr}

/-- An evaluation over the open scopes changes the number of steps only. -/
theorem evaluate_inStep {α : Type} {make make' : List Scope → Eval α}
    (h : ∀ scopes, InStep tight (make scopes) (make' scopes)) :
    InStep tight (evaluate make) (evaluate make') := by
  intro state
  have hrun : ∀ make : List Scope → Eval α, (evaluate make).run.run state =
      (((make state.scopes).run.run state.steps).1,
        { state with steps := ((make state.scopes).run.run state.steps).2 }) := fun _ => rfl
  rw [hrun, hrun]
  rcases h state.scopes state.steps with heq | hstop
  · exact .inl (by rw [heq])
  · exact .inr hstop

theorem operand_inStep (h : left.Shadows tight right (Expr.pathsOfAll exprs)) (depth : Nat)
    {e : Expr} (he : e ∈ exprs) :
    InStep tight (operand left depth e) (operand right depth e) :=
  evaluate_inStep fun scopes =>
    Expr.eval_inStep scopes (depth + 1) e (h.of_subset (Expr.paths_subset_of_mem he))

theorem number_inStep (h : left.Shadows tight right (Expr.pathsOfAll exprs)) (depth : Nat)
    (op : String) {e : Expr} (he : e ∈ exprs) :
    InStep tight (number left depth op e) (number right depth op e) :=
  (operand_inStep h depth he).bind fun _ => .refl _

theorem frame_inStep (h : left.Shadows tight right (Expr.pathsOfAll exprs)) (depth : Nat)
    (f : FrameExpr) (hf : f.exprs ⊆ exprs) :
    InStep tight (frame left depth f) (frame right depth f) :=
  (number_inStep h depth "x" (hf (by simp [FrameExpr.exprs]))).bind fun _ =>
    (number_inStep h depth "y" (hf (by simp [FrameExpr.exprs]))).bind fun _ =>
      (number_inStep h depth "w" (hf (by simp [FrameExpr.exprs]))).bind fun _ =>
        (number_inStep h depth "h" (hf (by simp [FrameExpr.exprs]))).bind fun _ => .refl _

theorem point_inStep (h : left.Shadows tight right (Expr.pathsOfAll exprs)) (depth : Nat)
    (p : PointExpr) (hp : p.exprs ⊆ exprs) :
    InStep tight (point left depth p) (point right depth p) :=
  (number_inStep h depth "connector" (hp (by simp [PointExpr.exprs]))).bind fun _ =>
    (number_inStep h depth "connector" (hp (by simp [PointExpr.exprs]))).bind fun _ => .refl _

theorem color_inStep (h : left.Shadows tight right (Expr.pathsOfAll exprs)) (depth : Nat)
    (c : Option Expr) (hc : c.toList ⊆ exprs) :
    InStep tight (color left depth c) (color right depth c) := by
  cases c with
  | none => exact .refl _
  | some e => exact (operand_inStep h depth (hc List.mem_cons_self)).bind fun _ => .refl _

theorem width_inStep (h : left.Shadows tight right (Expr.pathsOfAll exprs)) (depth : Nat)
    (op : String) (absent : Float) (w : Option Expr) (hw : w.toList ⊆ exprs) :
    InStep tight (width left depth op absent w) (width right depth op absent w) := by
  cases w with
  | none => exact .refl _
  | some e => exact (number_inStep h depth op (hw List.mem_cons_self)).bind fun _ => .refl _

theorem text_inStep (depth : Nat) (t : TextSpec)
    (h : left.Shadows tight right (Expr.pathsOfAll t.exprs)) :
    InStep tight (text left depth t) (text right depth t) := by
  have hframe : t.frame.exprs ⊆ t.exprs := by
    intro e he
    simp [TextSpec.exprs, he]
  have hcolor : t.color.toList ⊆ t.exprs := by
    intro e he
    simp [TextSpec.exprs, he]
  unfold text
  rw [h.theme]
  refine (operand_inStep h depth (by simp [TextSpec.exprs])).bind fun _ =>
    (InStep.refl _).bind fun _ => (frame_inStep h depth t.frame hframe).bind fun _ =>
      (number_inStep h depth "fontSize" (by simp [TextSpec.exprs])).bind fun fontSize => ?_
  have hdraw : ∀ op : Option Color → DrawOp,
      InStep tight (color left depth t.color >>= fun c => emit left.limits (op c))
        (color right depth t.color >>= fun c => emit right.limits (op c)) :=
    fun op => (color_inStep h depth t.color hcolor).bind fun c => emit_inStep h.limits (op c)
  by_cases hsize : fontSize ≤ 0
  · simp only [if_pos hsize]
    exact (InStep.refl _).bind fun _ => hdraw _
  · simp only [if_neg hsize]
    exact hdraw _

theorem shape_inStep (depth : Nat) (s : ShapeSpec)
    (h : left.Shadows tight right (Expr.pathsOfAll s.exprs)) :
    InStep tight (shape left depth s) (shape right depth s) :=
  (frame_inStep h depth s.frame fun _ he => by simp [ShapeSpec.exprs, he]).bind fun _ =>
    (color_inStep h depth s.fill fun _ he => by simp [ShapeSpec.exprs, he]).bind fun _ =>
      (color_inStep h depth s.stroke fun _ he => by simp [ShapeSpec.exprs, he]).bind fun _ =>
        (width_inStep h depth "strokeWidth" 1 s.strokeWidth
          fun _ he => by simp [ShapeSpec.exprs, he]).bind fun _ => emit_inStep h.limits _

theorem connector_inStep (depth : Nat) (c : ConnectorSpec)
    (h : left.Shadows tight right (Expr.pathsOfAll c.exprs)) :
    InStep tight (connector left depth c) (connector right depth c) := by
  unfold connector
  rw [h.theme]
  exact (point_inStep h depth c.source fun _ he => by simp [ConnectorSpec.exprs, he]).bind
    fun _ => (point_inStep h depth c.target
      fun _ he => by simp [ConnectorSpec.exprs, he]).bind fun _ =>
        (color_inStep h depth c.color fun _ he => by simp [ConnectorSpec.exprs, he]).bind
          fun _ => (width_inStep h depth "connector" 1.5 c.width
            fun _ he => by simp [ConnectorSpec.exprs, he]).bind fun _ => emit_inStep h.limits _

end Operands

section Blocks

variable {tight : Prop}

/-- A scope is closed the same way however its body ends. -/
theorem inScope_inStep (bindings : List (String × Json)) {body body' : Run Unit}
    (h : InStep tight body body') :
    InStep tight (inScope bindings body) (inScope bindings body') := by
  intro state
  -- the innermost scope is taken off whether or not the body fails
  have hrun : ∀ body : Run Unit, (inScope bindings body).run.run state =
      let ended := (bindAll bindings >>= fun _ => body).run.run
        { state with scopes := [] :: state.scopes }
      (ended.1, { ended.2 with scopes := ended.2.scopes.tail }) := fun _ => rfl
  rw [hrun, hrun]
  rcases (InStep.refl (bindAll bindings)).bind (fun _ => h)
    { state with scopes := [] :: state.scopes } with heq | hstop
  · exact .inl (by rw [heq])
  · exact .inr hstop

theorem forEach_inStep (binding : String) (index : Option String) {body body' : Run Unit}
    (h : InStep tight body body') (i : Nat) (items : List Json) :
    InStep tight (forEach binding index body i items) (forEach binding index body' i items) := by
  induction items generalizing i with
  | nil => exact .refl _
  | cons item rest ih => exact (inScope_inStep _ h).bind fun _ => ih (i + 1)

mutual

/-- An instruction is carried out in lock step if the inputs agree on the paths in it. -/
theorem instruction_inStep {left right : RunInput} (depth : Nat) (i : Instruction)
    (h : left.Shadows tight right (Expr.pathsOfAll i.exprs)) :
    InStep tight (instruction left depth i) (instruction right depth i) := by
  unfold instruction
  refine (evaluate_inStep fun _ => tick_inStep h.limits depth).bind fun _ => ?_
  cases i with
  | bind name value =>
      exact (operand_inStep h depth List.mem_cons_self).bind fun _ => .refl _
  | text t => exact text_inStep depth t h
  | shape s => exact shape_inStep depth s h
  | connector c => exact connector_inStep depth c h
  | branch c a b =>
      have hsubA : Instruction.exprsOfAll a ⊆ (Instruction.branch c a b).exprs := by
        simp [Instruction.exprs]
      have hsubB : Instruction.exprsOfAll b ⊆ (Instruction.branch c a b).exprs := by
        simp [Instruction.exprs]
      have ha := h.of_subset (Expr.pathsOfAll_subset hsubA)
      have hb := h.of_subset (Expr.pathsOfAll_subset hsubB)
      refine (operand_inStep h depth List.mem_cons_self).bind fun _ => ?_
      split
      · exact inScope_inStep [] (block_inStep (depth + 1) a ha)
      · exact inScope_inStep [] (block_inStep (depth + 1) b hb)
  | each source binding index body =>
      have hsub : Instruction.exprsOfAll body ⊆
          (Instruction.each source binding index body).exprs := by
        simp [Instruction.exprs]
      have hbody := h.of_subset (Expr.pathsOfAll_subset hsub)
      exact (operand_inStep h depth List.mem_cons_self).bind fun value =>
        (InStep.of_outcome (loopItems_match h.limits value)).bind fun items =>
          forEach_inStep binding index (block_inStep (depth + 1) body hbody) 0 items

theorem block_inStep {left right : RunInput} (depth : Nat) (body : List Instruction)
    (h : left.Shadows tight right (Expr.pathsOfAll (Instruction.exprsOfAll body))) :
    InStep tight (block left depth body) (block right depth body) := by
  cases body with
  | nil => exact .refl _
  | cons i rest =>
      have hsubFirst : i.exprs ⊆ Instruction.exprsOfAll (i :: rest) := by
        simp [Instruction.exprsOfAll]
      have hsubRest : Instruction.exprsOfAll rest ⊆ Instruction.exprsOfAll (i :: rest) := by
        simp [Instruction.exprsOfAll]
      have hi := h.of_subset (Expr.pathsOfAll_subset hsubFirst)
      have hrest := h.of_subset (Expr.pathsOfAll_subset hsubRest)
      exact (instruction_inStep depth i hi).bind fun _ => block_inStep depth rest hrest

end

end Blocks

end Run

/-- The drawings of a program under two inputs are the same, or so are the failures,
unless the first run is stopped where that is allowed. -/
theorem RenderProgram.execute_match {tight : Prop} {left right : RunInput} (p : RenderProgram)
    (h : left.Shadows tight right p.paths) :
    OutcomesMatch tight (p.execute left) (p.execute right) := by
  have hexecute : ∀ input, p.execute input =
      ((Run.block input 0 p.body).run.run .initial).1.map
        fun _ => ((Run.block input 0 p.body).run.run .initial).2.ops := fun _ => rfl
  rw [hexecute, hexecute]
  rcases Run.block_inStep 0 p.body h .initial with heq | ⟨htight, e, hstop, he⟩
  · rw [heq]
    exact .refl _
  · rw [hstop]
    exact .inr ⟨htight, isStopped_error he⟩

end SlideDeck
