import SlideDeck.Library.Closings
import SlideDeck.Proofs.Render.Recording.Basic

/-!
# Recordings within limits

Nothing that a recording shows is beyond the limits of its run. Every evaluation has been
counted as a step, and every operation is drawn by an instruction of its own, so the limit on
steps bounds both.
-/

namespace SlideDeck

/-- What a recording has come to: every evaluation has been counted, no more than so many
steps have been refused, and no fewer than so many operations may be drawn for what has been
evaluated. -/
structure Recording.Bounded (limits : ExecutionLimits) (refused spare : Nat) (r : Recording) :
    Prop where
  evaluations : r.evaluations ≤ limits.maxSteps
  counted : r.evaluations ≤ r.state.steps ∧ r.state.steps ≤ r.evaluations + refused
  spare : r.state.ops.length + spare ≤ r.evaluations
  drawn : r.state.ops.length ≤ limits.maxDrawOps
  events : ∀ event ∈ r.events, event.Within limits

namespace Recording.Bounded

variable {limits : ExecutionLimits} {refused spare : Nat} {r : Recording}

theorem spend (h : r.Bounded limits refused (spare + 1)) : r.Bounded limits refused spare :=
  ⟨h.evaluations, h.counted, Nat.le_of_succ_le h.spare, h.drawn, h.events⟩

theorem stop (h : r.Bounded limits 0 spare) : r.Bounded limits 1 0 := by
  obtain ⟨hevaluations, ⟨hlower, hupper⟩, hspare, hdrawn, hevents⟩ := h
  exact ⟨hevaluations, ⟨hlower, by omega⟩, by omega, hdrawn, hevents⟩

theorem rebind (h : r.Bounded limits refused spare) (scopes : List Scope) :
    Bounded limits refused spare { r with state := { r.state with scopes := scopes } } :=
  ⟨h.evaluations, h.counted, h.spare, h.drawn, h.events⟩

theorem refuse (h : r.Bounded limits 0 spare) :
    Bounded limits 1 0 { r with state := { r.state with steps := r.state.steps + 1 } } := by
  obtain ⟨hevaluations, ⟨hlower, hupper⟩, hspare, hdrawn, hevents⟩ := h
  exact ⟨hevaluations, ⟨Nat.le_succ_of_le hlower, Nat.succ_le_succ hupper⟩,
    Nat.le_trans (Nat.le_add_right _ _) hspare, hdrawn, hevents⟩

/-- An event that is no evaluation leaves what has been counted as it is. -/
theorem note (h : r.Bounded limits refused spare) {event : Event}
    (hevaluation : event.isEvaluation = false) (hwithin : event.Within limits) :
    Bounded limits refused spare { r with events := r.events ++ [event] } := by
  have hcount : Recording.evaluations { r with events := r.events ++ [event] } =
      r.evaluations := by
    simp [Recording.evaluations, hevaluation]
  obtain ⟨hevaluations, hcounted, hspare, hdrawn, hevents⟩ := h
  rw [← hcount] at hevaluations hcounted hspare
  exact ⟨hevaluations, hcounted, hspare, hdrawn,
    List.forall_mem_append.mpr ⟨hevents, List.forall_mem_singleton.mpr hwithin⟩⟩

/-- What is evaluated has been counted, and one operation more may be drawn for it. -/
theorem evaluate (h : r.Bounded limits 0 spare) {depth : Nat}
    (hsteps : r.state.steps + 1 ≤ limits.maxSteps) (hdepth : depth ≤ limits.maxDepth)
    (subject : Expr ⊕ Instruction) :
    Bounded limits 0 (spare + 1) {
      state := { r.state with steps := r.state.steps + 1 }
      events := r.events ++ [.evaluation subject depth] } := by
  obtain ⟨hevaluations, ⟨hlower, hupper⟩, hspare, hdrawn, hevents⟩ := h
  have hcount : Recording.evaluations {
      state := { r.state with steps := r.state.steps + 1 }
      events := r.events ++ [.evaluation subject depth] } = r.evaluations + 1 := by
    simp [Recording.evaluations, Event.isEvaluation]
  have hsteps' : r.evaluations + 1 ≤ limits.maxSteps := by omega
  have hlower' : r.evaluations + 1 ≤ r.state.steps + 1 := by omega
  have hupper' : r.state.steps + 1 ≤ r.evaluations + 1 := by omega
  have hspare' : r.state.ops.length + (spare + 1) ≤ r.evaluations + 1 := by omega
  rw [← hcount] at hsteps' hlower' hupper' hspare'
  exact ⟨hsteps', ⟨hlower', hupper'⟩, hspare', hdrawn,
    List.forall_mem_append.mpr ⟨hevents, List.forall_mem_singleton.mpr hdepth⟩⟩

/-- An operation is drawn for an evaluation that none has been drawn for. -/
theorem draw (h : r.Bounded limits 0 (spare + 1)) (op : DrawOp)
    (hroom : r.state.ops.length < limits.maxDrawOps) :
    Bounded limits 0 spare { r with state := { r.state with ops := r.state.ops ++ [op] } } := by
  obtain ⟨hevaluations, hcounted, hspare, hdrawn, hevents⟩ := h
  have hlength : (r.state.ops ++ [op]).length = r.state.ops.length + 1 := List.length_append
  refine ⟨hevaluations, hcounted, ?_, ?_, hevents⟩
  · dsimp only
    rw [hlength, Nat.add_assoc, Nat.add_comm 1]
    exact hspare
  · dsimp only
    rw [hlength]
    exact hroom

end Recording.Bounded

namespace Recorded

variable {α : Type} {limits : ExecutionLimits} {spare : Nat}

/-- A computation keeps a recording within the limits, however it ends. -/
def Stays (limits : ExecutionLimits) (before after : Nat) (x : Recorded α) : Prop :=
  Leads (Recording.Bounded limits 0 before) (Recording.Bounded limits 0 after)
    (Recording.Bounded limits 1 0) x

theorem Stays.bind {β : Type} {before middle after : Nat} {x : Recorded α}
    {next : α → Recorded β} (h : Stays limits before middle x)
    (hnext : ∀ a, Stays limits middle after (next a)) : Stays limits before after (x >>= next) :=
  Leads.bind h hnext

theorem Stays.outcome (outcome : Except ExecutionError α) :
    Stays limits spare spare (ExceptT.mk (pure outcome)) :=
  Leads.outcome outcome (fun _ hr => hr) fun _ hr => hr.stop

theorem Stays.spend {before : Nat} {x : Recorded α} (h : Stays limits before (spare + 1) x) :
    Stays limits before spare x := by
  intro r hr
  have hended := h r hr
  cases houtcome : (x.run.run r).1 with
  | error e => rwa [houtcome] at hended
  | ok a =>
      rw [houtcome] at hended
      exact hended.spend

theorem Stays.start {after : Nat} {x : Recorded α} (h : Stays limits spare after x) :
    Stays limits (spare + 1) after x :=
  fun r hr => h r hr.spend

theorem silent_run (x : Run α) (r : Recording) :
    (silent x).run.run r =
      ((x.run.run r.state).1, { r with state := (x.run.run r.state).2 }) := rfl

theorem stays_silent {x : Run α}
    (h : ∀ state, ∃ scopes, (x.run.run state).2 = { state with scopes := scopes }) :
    Stays limits spare spare (silent x) := by
  intro r hr
  obtain ⟨scopes, hscopes⟩ := h r.state
  rw [silent_run, hscopes]
  have hsame := hr.rebind scopes
  cases (x.run.run r.state).1 with
  | error e => exact hsame.stop
  | ok a => exact hsame

theorem stays_note {event : Event} (hevaluation : event.isEvaluation = false)
    (hwithin : event.Within limits) : Stays limits spare spare (note event) :=
  fun _ hr => hr.note hevaluation hwithin

theorem stays_enter (depth : Nat) (subject : Expr ⊕ Instruction) :
    Stays limits spare (spare + 1) (enter limits depth subject) := by
  intro r hr
  unfold enter
  rw [run_bind_run, silent_run]
  obtain ⟨hstate, ⟨hok, hsteps, hdepth⟩ | ⟨e, herror⟩⟩ := Run.tick_cases limits depth r.state
  · rw [hstate, hok]
    exact hr.evaluate hsteps hdepth subject
  · rw [hstate, herror]
    exact hr.refuse

theorem stays_emit (op : DrawOp) : Stays limits (spare + 1) spare (emit limits op) := by
  intro r hr
  unfold emit
  rw [run_bind_run, silent_run, emit_run]
  by_cases hfull : limits.maxDrawOps ≤ r.state.ops.length
  · rw [if_pos hfull]
    exact hr.stop
  · rw [if_neg hfull]
    have hdrawn := hr.draw op (Nat.lt_of_not_le hfull)
    exact hdrawn.note rfl hdrawn.drawn

theorem Stays.inScope (bindings : List (String × Json)) {body : Recorded Unit}
    (h : Stays limits 0 0 body) : Stays limits 0 0 (inScope bindings body) := by
  intro r hr
  have hbody : Stays limits 0 0 (silent (Run.bindAll bindings) >>= fun _ => body) :=
    (stays_silent (Run.exists_scopes_bindAll bindings)).bind fun _ => h
  have hrun : (Recorded.inScope bindings body).run.run r =
      let ended := (silent (Run.bindAll bindings) >>= fun _ => body).run.run
        { r with state := { r.state with scopes := [] :: r.state.scopes } }
      (ended.1, { ended.2 with
        state := { ended.2.state with scopes := ended.2.state.scopes.tail } }) := rfl
  have hended := hbody _ (hr.rebind ([] :: r.state.scopes))
  rw [hrun]
  dsimp only
  split
  next hok =>
    rw [hok] at hended
    exact hended.rebind _
  next herror =>
    rw [herror] at hended
    exact hended.rebind _

theorem Stays.forEach (binding : String) (index : Option String) {body : Recorded Unit}
    (h : Stays limits 0 0 body) (i : Nat) (items : List Json)
    (hitems : i + items.length ≤ limits.maxLoopItems) :
    Stays limits 0 0 (forEach binding index body i items) := by
  induction items generalizing i with
  | nil => exact .outcome (.ok ())
  | cons item rest ih =>
      rw [List.length_cons] at hitems
      have hround : Event.Within limits (.round (i + 1)) := by
        unfold Event.Within
        omega
      exact (stays_note rfl hround).bind fun _ => (h.inScope _).bind fun _ =>
        ih (i + 1) (by omega)

theorem Stays.block {instruction : Instruction → Recorded Unit}
    (h : ∀ i, Stays limits 0 0 (instruction i)) (body : List Instruction) :
    Stays limits 0 0 (block instruction body) := by
  induction body with
  | nil => exact .outcome (.ok ())
  | cons i rest ih => exact (h i).bind fun _ => ih

end Recorded

/-- The evaluation of an expression leaves as much to be drawn as there was before it. -/
theorem Expr.stays_record (input : RunInput) (scopes : List Scope) (depth : Nat) (e : Expr)
    (spare : Nat) : Recorded.Stays input.limits spare spare (e.record input scopes depth) := by
  induction depth, e using Expr.record.induct input generalizing spare with
  | case1 depth e ih =>
      rw [record]
      refine (Recorded.stays_enter depth _).bind fun _ => Recorded.Stays.spend ?_
      by_cases hdepth : depth ≤ input.limits.maxDepth
      · rw [dif_pos hdepth]
        have hoperand := fun below operand => ih hdepth below operand (spare + 1)
        exact Leads.carryOut (fun _ hr => hr.stop) hoperand _
      · rw [dif_neg hdepth]
        exact .outcome _

/-- A loop that has been planned has as many items as the limits allow at most. -/
def Action.Within (limits : ExecutionLimits) : Action → Prop
  | .loop _ _ items _ => items.length ≤ limits.maxLoopItems
  | _ => True

theorem Instruction.ensures_within (input : RunInput) (i : Instruction) :
    (i.plan input).Ensures (Action.Within input.limits) := by
  cases i with
  | bind _ _ | text _ | shape _ | connector _ | branch _ _ _ =>
      exact (Plan.Ensures.trivial _).bind fun _ _ => .pure trivial
  | each source binding index body =>
      refine (Plan.Ensures.trivial _).bind fun value _ => ?_
      have hitems : (Plan.done (Run.loopItems input.limits value)).Ensures
          fun items => items.length ≤ input.limits.maxLoopItems := by
        intro items h
        cases value with
        | array values =>
            simp only [Run.loopItems] at h
            split at h
            next => cases h
            next hlength =>
              cases h
              exact Nat.le_of_not_lt hlength
        | null | bool _ | number _ | string _ | object _ => cases h
      exact hitems.bind fun items h => .pure h

theorem Instruction.stays_record (input : RunInput) (depth : Nat) (i : Instruction) :
    Recorded.Stays input.limits 0 0 (i.record input depth) := by
  induction depth, i using Instruction.record.induct input with
  | case1 depth i ih =>
      rw [record]
      refine (Recorded.stays_enter depth _).bind fun _ => ?_
      by_cases hdepth : depth ≤ input.limits.maxDepth
      · rw [dif_pos hdepth]
        -- the step is good for one operation, and operands do not use it up
        have hoperand : ∀ below e, Recorded.Stays input.limits 1 1
            (Recorded.operandBelow input depth below e) :=
          fun below e r => Expr.stays_record input r.state.scopes (depth + below + 1) e 1 r
        have hblock := Recorded.Stays.block (ih hdepth)
        refine Leads.carryOut_bind (fun _ hr => hr.stop) hoperand (i.ensures_within input)
          fun action haction => ?_
        cases action with
        | bind name value =>
            exact (Recorded.stays_silent (Run.exists_scopes_bind name value)).spend
        | draw op => exact Recorded.stays_emit op
        | branch body => exact ((hblock body).inScope []).start
        | loop binding index items body =>
            have hitems : 0 + items.length ≤ input.limits.maxLoopItems :=
              (Nat.zero_add _).symm ▸ haction
            exact ((hblock body).forEach binding index 0 items hitems).start
      · rw [dif_neg hdepth]
        exact (Recorded.Stays.outcome _).spend

/-! ## Programs -/

namespace RenderProgram

/-- A recording of a run comes to the outcome and the state of the run. -/
theorem run_eq_record (p : RenderProgram) (input : RunInput) :
    p.run input = ((p.record input).1, (p.record input).2.state) :=
  Erases.block (Instruction.erases_record input 0) p.body ⟨.initial, []⟩

theorem bounded_record (p : RenderProgram) (input : RunInput) :
    (p.record input).2.Bounded input.limits 1 0 := by
  have hstart : Recording.Bounded input.limits 0 0 ⟨.initial, []⟩ :=
    ⟨Nat.zero_le _, ⟨Nat.zero_le _, Nat.zero_le _⟩, Nat.zero_le _, Nat.zero_le _, nofun⟩
  exact Leads.always (Recorded.Stays.block (Instruction.stays_record input 0) p.body)
    (fun _ hr => hr.stop) hstart

/-- Whatever becomes of a run, its recording shows no more evaluations than steps are allowed,
and all that it shows is within the limits: the depth of every evaluation, what the drawing
holds after every operation, and how often any loop runs its body. The run counts its
evaluations and at most one step that is refused. So a drawing has no more operations than the
limits on operations and on steps allow. -/
theorem record_within (p : RenderProgram) (input : RunInput) :
    p.run input = ((p.record input).1, (p.record input).2.state) ∧
    (p.record input).2.evaluations ≤ input.limits.maxSteps ∧
    (p.record input).2.evaluations ≤ (p.run input).2.steps ∧
    (p.run input).2.steps ≤ (p.record input).2.evaluations + 1 ∧
    (∀ event ∈ (p.record input).2.events, event.Within input.limits) ∧
    (p.run input).2.ops.length ≤ input.limits.maxDrawOps ∧
    ∀ ops, p.execute input = .ok ops →
      ops.length ≤ input.limits.maxDrawOps ∧ ops.length ≤ input.limits.maxSteps := by
  obtain ⟨hevaluations, ⟨hlower, hupper⟩, hspare, hdrawn, hevents⟩ := p.bounded_record input
  have hrun := p.run_eq_record input
  have hstate : (p.run input).2 = (p.record input).2.state := congrArg Prod.snd hrun
  rw [← hstate] at hlower hupper hspare hdrawn
  refine ⟨hrun, hevaluations, hlower, hupper, hevents, hdrawn, ?_⟩
  intro ops h
  rw [ops_of_execute h] at hspare hdrawn
  exact ⟨hdrawn, Nat.le_trans hspare hevaluations⟩

/-- A closing slide is drawn within the usual limits. Under a limit of five steps its run is
stopped, and then five expressions and instructions have been evaluated at most. -/
theorem record_within_closing :
    (∃ ops, Library.thankYou.renderProgram.execute
        ⟨.standard, .standard, .object [("message", .string "Goodbye")]⟩ = .ok ops ∧
      ops.length ≤ ExecutionLimits.standard.maxDrawOps ∧
      ops.length ≤ ExecutionLimits.standard.maxSteps) ∧
    let input : RunInput := ⟨{ ExecutionLimits.standard with maxSteps := 5 }, .standard,
      .object [("message", .string "Goodbye")]⟩
    (Library.thankYou.renderProgram.run input).1 = .error (.stepBudget 5) ∧
      (Library.thankYou.renderProgram.record input).2.evaluations ≤ 5 := by
  refine ⟨?_, rfl, (record_within _ _).2.1⟩
  have hdrawn : (Library.thankYou.renderProgram.execute
      ⟨.standard, .standard, .object [("message", .string "Goodbye")]⟩).isOk = true := by
    decide +kernel
  cases hrun : Library.thankYou.renderProgram.execute
      ⟨.standard, .standard, .object [("message", .string "Goodbye")]⟩ with
  | error e =>
      rw [hrun] at hdrawn
      cases hdrawn
  | ok ops =>
      obtain ⟨_, _, _, _, _, _, hlength⟩ := record_within Library.thankYou.renderProgram
        ⟨.standard, .standard, .object [("message", .string "Goodbye")]⟩
      exact ⟨ops, rfl, hlength ops hrun⟩

end RenderProgram

end SlideDeck
