import SlideDeck.Proofs.Render.Plan.Instructions

/-!
# What a run leaves as it was

Evaluating an expression touches neither the scopes nor the drawing. An instruction binds a name
in the innermost scope or leaves the scopes as they are, for the bodies of branches and loops
close the scopes that they open. So a block changes the innermost scope by its own bindings only,
as far as it comes, and a drawing only grows.
-/

namespace SlideDeck

/-- The binding that an instruction makes in the scope that it is carried out in. -/
def Instruction.binding? : Instruction → Option (String × Expr)
  | .bind name value => some (name, value)
  | _ => none

/-- The bindings of a block itself, in their order; those in the bodies of its branches and
loops are not among them. -/
def Instruction.bindings (body : List Instruction) : List (String × Expr) :=
  body.filterMap binding?

theorem Instruction.bindings_cons (i : Instruction) (rest : List Instruction) :
    bindings (i :: rest) = i.binding?.toList ++ bindings rest := by
  unfold bindings
  rw [List.filterMap_cons]
  cases i.binding? <;> rfl

namespace Run

/-- The scopes before and after some bindings are made one after another, each in the innermost
scope and of the value that its expression has over the scopes at the time. -/
inductive Binds (input : RunInput) (depth : Nat) :
    List (String × Expr) → List Scope → List Scope → Prop
  | nil (scopes : List Scope) : Binds input depth [] scopes scopes
  | cons {name : String} {e : Expr} {bindings : List (String × Expr)} {scope : Scope}
      {outer after : List Scope} {value : Json} {steps : Nat} (hname : isBindable name = true)
      (hvalue : ((e.eval input (scope :: outer) (depth + 1)).run.run steps).1 = .ok value)
      (hrest : Binds input depth bindings (Scope.bind name value scope :: outer) after) :
      Binds input depth ((name, e) :: bindings) (scope :: outer) after

namespace Binds

variable {input : RunInput} {depth : Nat} {made : List (String × Expr)}
  {before after : List Scope}

theorem append {more : List (String × Expr)} {last : List Scope}
    (h : Binds input depth made before after) (hmore : Binds input depth more after last) :
    Binds input depth (made ++ more) before last := by
  induction h with
  | nil => exact hmore
  | cons hname hvalue _ ih => exact .cons hname hvalue (ih hmore)

theorem tail_eq (h : Binds input depth made before after) : after.tail = before.tail := by
  induction h with
  | nil => rfl
  | cons _ _ _ ih => exact ih

theorem length_eq (h : Binds input depth made before after) : after.length = before.length := by
  induction h with
  | nil => rfl
  | cons _ _ _ ih => exact ih

theorem eq_of_nil (h : Binds input depth [] before after) : after = before := by
  cases h
  rfl

end Binds

/-- What has become of a state: some bindings have been made, and the drawing has grown. -/
structure Progress (input : RunInput) (depth : Nat) (made : List (String × Expr))
    (before after : RunState) : Prop where
  scopes : Binds input depth made before.scopes after.scopes
  ops : before.ops <+: after.ops

namespace Progress

variable {input : RunInput} {depth : Nat} {made more : List (String × Expr)}
  {before middle after : RunState}

theorem refl (state : RunState) : Progress input depth [] state state :=
  ⟨.nil _, List.prefix_rfl⟩

theorem trans (h : Progress input depth made before middle)
    (hmore : Progress input depth more middle after) :
    Progress input depth (made ++ more) before after :=
  ⟨h.scopes.append hmore.scopes, h.ops.trans hmore.ops⟩

theorem of_scopes_eq (hscopes : after.scopes = before.scopes) (hops : before.ops <+: after.ops) :
    Progress input depth [] before after :=
  ⟨hscopes ▸ .nil _, hops⟩

theorem scopes_eq (h : Progress input depth [] before after) : after.scopes = before.scopes :=
  h.scopes.eq_of_nil

end Progress

/-- A computation makes some bindings, all of them if it succeeds and the first of them if it
fails. -/
def Makes {α : Type} (input : RunInput) (depth : Nat) (own : List (String × Expr))
    (x : Run α) : Prop :=
  ∀ before, Leads (Progress input depth [] before) (Progress input depth own before)
    (fun after => ∃ made, made <+: own ∧ Progress input depth made before after) x

section Makes

variable {α β : Type} {input : RunInput} {depth : Nat} {own more : List (String × Expr)}

theorem Makes.ended {x : Run α} (h : Makes input depth own x) (state : RunState) :
    ∃ made, made <+: own ∧ ((∃ a, (x.run.run state).1 = .ok a) → made = own) ∧
      Progress input depth made state (x.run.run state).2 := by
  have hended := h state state (.refl state)
  cases houtcome : (x.run.run state).1 with
  | ok a =>
      rw [houtcome] at hended
      exact ⟨own, List.prefix_rfl, fun _ => rfl, hended⟩
  | error e =>
      rw [houtcome] at hended
      obtain ⟨made, hmade, hprogress⟩ := hended
      refine ⟨made, hmade, ?_, hprogress⟩
      rintro ⟨_, ⟨⟩⟩

/-- What makes no bindings leaves the scopes as they are, however it ends. -/
theorem Makes.scopes_eq {x : Run α} (h : Makes input depth [] x) (state : RunState) :
    (x.run.run state).2.scopes = state.scopes := by
  obtain ⟨made, hmade, -, hended⟩ := h.ended state
  obtain rfl := List.prefix_nil.mp hmade
  exact hended.scopes_eq

theorem Makes.bind {x : Run α} {next : α → Run β} (h : Makes input depth own x)
    (hnext : ∀ a, Makes input depth more (next a)) :
    Makes input depth (own ++ more) (x >>= next) := by
  intro before state hbefore
  have hfirst := h before state hbefore
  rw [run_bind_run]
  rcases hrun : x.run.run state with ⟨e | a, middle⟩
  · rw [hrun] at hfirst
    obtain ⟨made, hmade, hprogress⟩ := hfirst
    exact ⟨made, hmade.trans (List.prefix_append own more), hprogress⟩
  · rw [hrun] at hfirst
    dsimp only at hfirst ⊢
    have hsecond := hnext a middle middle (.refl middle)
    cases houtcome : ((next a).run.run middle).1 with
    | ok b =>
        rw [houtcome] at hsecond
        exact hfirst.trans hsecond
    | error e =>
        rw [houtcome] at hsecond
        obtain ⟨made, hmade, hprogress⟩ := hsecond
        exact ⟨own ++ made, (List.prefix_append_right_inj own).mpr hmade,
          hfirst.trans hprogress⟩

/-- What leaves the scopes as they are makes no bindings. -/
theorem makes_nil {x : Run α} (h : ∀ state, (x.run.run state).2.scopes = state.scopes ∧
    state.ops <+: (x.run.run state).2.ops) : Makes input depth [] x := by
  intro before state hbefore
  have hended : Progress input depth [] before (x.run.run state).2 :=
    hbefore.trans (.of_scopes_eq (h state).1 (h state).2)
  cases (x.run.run state).1 with
  | ok a => exact hended
  | error e => exact ⟨[], List.prefix_rfl, hended⟩

theorem makes_evaluate (make : List Scope → Eval α) : Makes input depth [] (evaluate make) :=
  makes_nil fun _ => ⟨rfl, List.prefix_rfl⟩

theorem makes_emit (limits : ExecutionLimits) (op : DrawOp) :
    Makes input depth [] (emit limits op) := by
  apply makes_nil
  intro state
  rw [emit_run]
  by_cases hfull : limits.maxDrawOps ≤ state.ops.length
  · rw [if_pos hfull]
    exact ⟨rfl, List.prefix_rfl⟩
  · rw [if_neg hfull]
    exact ⟨rfl, List.prefix_append _ _⟩

theorem Makes.carryOut_bind {evaluate : Nat → Expr → Run Json} {q : β → Prop} {plan : Plan β}
    {next : β → Run α} (hevaluate : ∀ below e, Makes input depth [] (evaluate below e))
    (hplan : plan.Ensures q) (hnext : ∀ b, q b → Makes input depth own (next b)) :
    Makes input depth own (plan.carryOut evaluate >>= next) := by
  intro before
  refine Leads.carryOut_bind (fun state h => ⟨[], List.nil_prefix, h⟩) (fun below e => ?_) hplan
    fun b hb => hnext b hb before
  intro state hbefore
  have hended := hevaluate below e before state hbefore
  cases houtcome : ((evaluate below e).run.run state).1 with
  | ok value =>
      rw [houtcome] at hended
      exact hended
  | error e =>
      rw [houtcome] at hended
      obtain ⟨made, hmade, hprogress⟩ := hended
      exact ⟨made, hmade.trans List.nil_prefix, hprogress⟩

end Makes

/-! ## Instructions -/

/-- A name is bound in the innermost scope, or nothing happens. -/
theorem bind_cases (name : String) (value : Json) (state : RunState) :
    (∃ e, (bind name value).run.run state = (.error e, state)) ∨
      isBindable name = true ∧ ∃ scope outer, state.scopes = scope :: outer ∧
        (bind name value).run.run state =
          (.ok (), { state with scopes := Scope.bind name value scope :: outer }) := by
  obtain ⟨scopes, steps, ops⟩ := state
  unfold bind
  by_cases hname : isBindable name = true
  · cases scopes with
    | nil =>
        simp only [hname]
        exact .inl ⟨_, rfl⟩
    | cons scope outer =>
        refine .inr ⟨hname, scope, outer, rfl, ?_⟩
        simp only [hname]
        rfl
  · left
    simp only [hname]
    exact ⟨_, rfl⟩

/-- Bindings change the innermost scope only. -/
theorem exists_scope_bindAll (bindings : List (String × Json)) (state : RunState)
    {scope : Scope} {outer : List Scope} (h : state.scopes = scope :: outer) :
    ∃ inner, ((bindAll bindings).run.run state).2 = { state with scopes := inner :: outer } := by
  induction bindings generalizing state scope with
  | nil => exact ⟨scope, h ▸ rfl⟩
  | cons binding rest ih =>
      obtain ⟨name, value⟩ := binding
      unfold bindAll
      rw [run_bind_run]
      obtain ⟨e, hrun⟩ | ⟨_, scope', outer', hscopes, hrun⟩ := bind_cases name value state
      · rw [hrun]
        exact ⟨scope, h ▸ rfl⟩
      · rw [h] at hscopes
        obtain ⟨rfl, rfl⟩ := List.cons.inj hscopes
        rw [hrun]
        exact ih _ rfl

theorem inScope_run (bindings : List (String × Json)) (body : Run Unit) (state : RunState) :
    (inScope bindings body).run.run state =
      let ended := (bindAll bindings >>= fun _ => body).run.run
        { state with scopes := [] :: state.scopes }
      (ended.1, { ended.2 with scopes := ended.2.scopes.tail }) := rfl

variable {input : RunInput} {depth : Nat}

/-- A scope is closed with all that has been bound in it, however its body ends. -/
theorem Makes.inScope (bindings : List (String × Json)) {below : Nat}
    {own : List (String × Expr)} {body : Run Unit} (h : Makes input below own body) :
    Makes input depth [] (inScope bindings body) := by
  apply makes_nil
  intro state
  obtain ⟨scope, hbound⟩ :=
    exists_scope_bindAll bindings { state with scopes := [] :: state.scopes } rfl
  rw [inScope_run, run_bind_run]
  rcases hrun : (bindAll bindings).run.run { state with scopes := [] :: state.scopes } with
    ⟨e | _, opened⟩
  · rw [hrun] at hbound
    subst hbound
    exact ⟨rfl, List.prefix_rfl⟩
  · rw [hrun] at hbound
    subst hbound
    obtain ⟨_, _, _, hended⟩ := h.ended { state with scopes := scope :: state.scopes }
    exact ⟨hended.scopes.tail_eq, hended.ops⟩

theorem Makes.forEach (binding : String) (index : Option String) {below : Nat}
    {own : List (String × Expr)} {body : Run Unit} (h : Makes input below own body) (i : Nat)
    (items : List Json) : Makes input depth [] (forEach binding index body i items) := by
  induction items generalizing i with
  | nil => exact makes_nil fun _ => ⟨rfl, List.prefix_rfl⟩
  | cons item rest ih => exact (h.inScope _).bind fun _ => ih (i + 1)

/-- What is bound is the value that an expression has over the open scopes. -/
theorem makes_bind (name : String) (e : Expr) :
    Makes input depth [(name, e)] (operand input depth e >>= fun value => bind name value) := by
  intro before state hbefore
  rcases hvalue : (e.eval input state.scopes (depth + 1)).run.run state.steps with
    ⟨outcome, steps⟩
  have hoperand : (operand input depth e).run.run state =
      (outcome, { state with steps := steps }) := by
    rw [operand, evaluate_run, hvalue]
  have hcounted : Progress input depth [] before { state with steps := steps } :=
    ⟨hbefore.scopes, hbefore.ops⟩
  rw [run_bind_run, hoperand]
  cases outcome with
  | error stop => exact ⟨[], List.nil_prefix, hcounted⟩
  | ok value =>
      dsimp only
      obtain ⟨stop, hrun⟩ | ⟨hname, scope, outer, hscopes, hrun⟩ :=
        bind_cases name value { state with steps := steps }
      · rw [hrun]
        exact ⟨[], List.nil_prefix, hcounted⟩
      · rw [hrun]
        dsimp only at hscopes ⊢
        rw [hscopes] at hvalue
        refine hcounted.trans ⟨?_, List.prefix_rfl⟩
        rw [hscopes]
        exact .cons hname (congrArg Prod.fst hvalue) (.nil _)

/-- An instruction whose action makes no bindings makes none. -/
theorem makes_nil_instruction {i : Instruction}
    (hplan : (i.plan input).Ensures fun action =>
      Makes input depth [] (action.perform input.limits (block input (depth + 1)))) :
    Makes input depth [] (instruction input depth i) := by
  rw [instruction_eq]
  exact (makes_evaluate _).bind fun _ =>
    Makes.carryOut_bind (fun _ _ => makes_evaluate _) hplan fun _ h => h

variable (input)

mutual

/-- An instruction makes the binding that it states, or none. -/
theorem makes_instruction (depth : Nat) (i : Instruction) :
    Makes input depth i.binding?.toList (instruction input depth i) := by
  cases i with
  | bind name e =>
      have hinstruction : instruction input depth (.bind name e) =
          evaluate (fun _ => Eval.tick input.limits depth) >>= fun _ =>
            operand input depth e >>= fun value => bind name value := by
        unfold instruction
        rfl
      rw [hinstruction]
      exact (makes_evaluate _).bind fun _ => makes_bind name e
  | text _ | shape _ | connector _ =>
      exact makes_nil_instruction ((Plan.Ensures.trivial _).bind fun _ _ => .pure (makes_emit _ _))
  | branch c a b =>
      refine makes_nil_instruction ((Plan.Ensures.trivial _).bind fun value _ => .pure ?_)
      cases value.truthy with
      | true => exact (makes_block (depth + 1) a).inScope []
      | false => exact (makes_block (depth + 1) b).inScope []
  | each source binding index body =>
      exact makes_nil_instruction <| (Plan.Ensures.trivial _).bind fun _ _ =>
        (Plan.Ensures.trivial _).bind fun items _ =>
          .pure ((makes_block (depth + 1) body).forEach binding index 0 items)

/-- A block makes its own bindings. -/
theorem makes_block (depth : Nat) (body : List Instruction) :
    Makes input depth (Instruction.bindings body) (block input depth body) := by
  cases body with
  | nil => exact makes_nil fun _ => ⟨rfl, List.prefix_rfl⟩
  | cons i rest =>
      rw [Instruction.bindings_cons]
      exact (makes_instruction depth i).bind fun _ => makes_block depth rest

end

end Run

end SlideDeck
