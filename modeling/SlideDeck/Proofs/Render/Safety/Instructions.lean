import SlideDeck.Proofs.Render.Safety.Expressions
import SlideDeck.Proofs.Render.Scopes.Reachable

/-!
# Programs without mistakes

Going through a block from the front, what is bound at an instruction are the names of the loops
around it and those bound in front of it, in its own block or in one that it is inside. A program
whose instructions keep to these names, bind none that cannot be bound and take colours for colours
only makes no mistake on any data, under any theme and within any limits, wherever it comes.
-/

namespace SlideDeck

/-! ## The check -/

namespace Environment

/-- Binds some names one after another; nothing is known of their values. -/
def bindNames (env : Environment) (names : List String) : Environment :=
  names.foldl (fun env name => (name, .anything) :: env) env

end Environment

namespace Instruction

/-- The expressions of an instruction itself that have to be colours. -/
def colorExprs : Instruction → List Expr
  | .text t => t.color.toList
  | .shape s => s.fill.toList ++ s.stroke.toList
  | .connector c => c.color.toList
  | .bind _ _ | .branch _ _ _ | .each _ _ _ _ => []

/-- The names that an instruction itself binds. -/
def names : Instruction → List String
  | .bind name _ => [name]
  | .each _ binding index _ => binding :: index.toList
  | .text _ | .shape _ | .connector _ | .branch _ _ _ => []

/-- An instruction itself, apart from its bodies, keeps to what is known. -/
def isSafeHere (env : Environment) (i : Instruction) : Bool :=
  i.names.all Run.isBindable && i.ownExprs.all (Expr.isSafe env) &&
    i.colorExprs.all fun e => e.known env = .color

/-- What is bound behind an instruction. -/
def extend (env : Environment) : Instruction → Environment
  | .bind name value => (name, value.known env) :: env
  | .text _ | .shape _ | .connector _ | .branch _ _ _ | .each _ _ _ _ => env

mutual

/-- An instruction and its bodies keep to what is known. -/
def isSafe (env : Environment) (i : Instruction) : Bool :=
  i.isSafeHere env &&
    match i with
    | .bind _ _ | .text _ | .shape _ | .connector _ => true
    | .branch _ a b => areSafe env a && areSafe env b
    | .each _ binding index body => areSafe (env.bindNames (binding :: index.toList)) body

/-- The instructions of a block keep to what is known, each with what those in front bind. -/
def areSafe (env : Environment) : List Instruction → Bool
  | [] => true
  | i :: rest => isSafe env i && areSafe (i.extend env) rest

end

end Instruction

/-- A program keeps to what it binds. -/
def RenderProgram.isSafe (p : RenderProgram) : Bool := Instruction.areSafe [] p.body

/-- The names that a program binds anywhere. -/
def RenderProgram.names (p : RenderProgram) : List String :=
  (Instruction.partsOfAll p.body).flatMap Instruction.names

namespace Instruction

variable {env : Environment} {i : Instruction}

theorem colorExprs_subset (i : Instruction) : i.colorExprs ⊆ i.ownExprs := by
  intro e he
  cases i with
  | text t =>
      exact List.mem_append_right (t.text :: t.frame.exprs) (List.mem_cons_of_mem t.fontSize he)
  | shape s =>
      simp only [colorExprs, ownExprs, ShapeSpec.exprs, List.mem_append] at he ⊢
      rcases he with he | he
      · exact .inl (.inl (.inr he))
      · exact .inl (.inr he)
  | connector c =>
      simp only [colorExprs, ownExprs, ConnectorSpec.exprs, List.mem_append] at he ⊢
      exact .inl (.inr he)
  | bind _ _ | branch _ _ _ | each _ _ _ _ => cases he

theorem isSafeHere_iff :
    i.isSafeHere env = true ↔
      (∀ name ∈ i.names, Run.isBindable name = true) ∧ (∀ e ∈ i.ownExprs, e.isSafe env = true) ∧
        ∀ e ∈ i.colorExprs, e.known env = .color := by
  simp only [isSafeHere, Bool.and_eq_true, List.all_eq_true, decide_eq_true_eq, and_assoc]

theorem isSafeHere_of_isSafe (h : i.isSafe env = true) : i.isSafeHere env = true := by
  unfold isSafe at h
  exact (Bool.and_eq_true_iff.mp h).1

theorem areSafe_cons {rest : List Instruction} :
    areSafe env (i :: rest) = true ↔ i.isSafe env = true ∧ areSafe (i.extend env) rest = true := by
  rw [areSafe, Bool.and_eq_true]

theorem isSafe_branch {c : Expr} {a b : List Instruction}
    (h : (branch c a b).isSafe env = true) : areSafe env a = true ∧ areSafe env b = true := by
  unfold isSafe at h
  exact Bool.and_eq_true_iff.mp (Bool.and_eq_true_iff.mp h).2

theorem isSafe_each {source : Expr} {binding : String} {index : Option String}
    {body : List Instruction} (h : (each source binding index body).isSafe env = true) :
    areSafe (env.bindNames (binding :: index.toList)) body = true := by
  unfold isSafe at h
  exact (Bool.and_eq_true_iff.mp h).2

end Instruction

/-! ## Bindings -/

namespace Environment

variable {env : Environment}

theorem describes_initial : Describes [] RunState.initial.scopes := by
  refine ⟨Scope.Proper.initial, ?_⟩
  rintro name k ⟨⟩

theorem Describes.openScope {scopes : List Scope} (h : env.Describes scopes) :
    env.Describes ([] :: scopes) :=
  ⟨h.proper.openScope, h.known⟩

theorem Describes.bind {scope : Scope} {outer : List Scope} (h : env.Describes (scope :: outer))
    {name : String} (hname : Run.isBindable name = true) {k : Known} {value : Json}
    (hvalue : k.Holds value) :
    Describes ((name, k) :: env) (Scope.bind name value scope :: outer) := by
  refine ⟨h.proper.bind hname value, fun other k' hother => ?_⟩
  rw [Scope.find?_bind]
  by_cases heq : other = name
  · rw [if_pos heq]
    rw [heq, List.lookup_cons_self] at hother
    obtain rfl := Option.some.inj hother
    exact ⟨value, rfl, hvalue⟩
  · rw [if_neg heq]
    rw [List.lookup_cons, beq_false_of_ne heq] at hother
    exact h.known other k' hother

/-- The open scopes of a state are as an environment says. -/
def At (env : Environment) (state : RunState) : Prop := env.Describes state.scopes

theorem At.of_scopes_eq {state after : RunState} (h : env.At state)
    (hscopes : after.scopes = state.scopes) : env.At after := by
  unfold At
  rw [hscopes]
  exact h

end Environment

namespace Run

variable {env : Environment} {input : RunInput} {depth : Nat}

theorem safe_bind {name : String} (hname : isBindable name = true) {k : Known} {value : Json}
    (hvalue : k.Holds value) :
    Safe env.At (fun _ => Environment.At ((name, k) :: env)) (bind name value) := by
  rintro ⟨scopes, steps, ops⟩ hstate
  unfold bind
  cases scopes with
  | nil =>
      simp only [hname]
      exact rfl
  | cons scope outer =>
      simp only [hname]
      exact Environment.Describes.bind hstate hname hvalue

theorem safe_bindAll {bindings : List (String × Json)}
    (hnames : ∀ name ∈ bindings.map Prod.fst, isBindable name = true) :
    Safe env.At (fun _ => (env.bindNames (bindings.map Prod.fst)).At) (bindAll bindings) := by
  induction bindings generalizing env with
  | nil => exact fun _ h => h
  | cons binding rest ih =>
      obtain ⟨hname, hrest⟩ := List.forall_mem_cons.mp hnames
      have hbound : Known.anything.Holds binding.2 := True.intro
      exact (safe_bind hname hbound).bind fun _ => ih hrest

/-- What makes no bindings leaves the environment as it was. -/
theorem Makes.safe {x : Run Unit} (hmakes : Makes input depth [] x)
    (h : Safe env.At (fun _ _ => True) x) : Safe env.At (fun _ => env.At) x :=
  fun state hstate =>
    (h state hstate).mono fun _ _ => hstate.of_scopes_eq (hmakes.scopes_eq state)

/-- What a round of a loop binds. -/
theorem safe_round {binding : String} {index : Option String}
    (hnames : ∀ name ∈ binding :: index.toList, isBindable name = true) (item : Json) (i : Nat) :
    Safe env.At (fun _ => (env.bindNames (binding :: index.toList)).At)
      (bindAll ((binding, item) :: index.toList.map fun name => (name, .ofNat i))) := by
  have hbound : ((binding, item) :: index.toList.map fun name => (name, Json.ofNat i)).map
      Prod.fst = binding :: index.toList := by
    cases index <;> rfl
  rw [← hbound] at hnames ⊢
  exact safe_bindAll hnames

/-- A scope is closed again with all that has been bound in it. -/
theorem safe_inScope {inner : Environment} {bindings : List (String × Json)} {below : Nat}
    {own : List (String × Expr)} {body : Run Unit}
    (hbound : Safe env.At (fun _ => inner.At) (bindAll bindings))
    (hmakes : Makes input below own body) (hbody : Safe inner.At (fun _ _ => True) body) :
    Safe env.At (fun _ => env.At) (inScope bindings body) := by
  -- what the body has bound is gone with its scope, so only its failures are in question
  have hclosed : Makes input below [] (inScope bindings body) := hmakes.inScope bindings
  apply hclosed.safe
  intro state hstate
  have hopened : env.At { state with scopes := [] :: state.scopes } := hstate.openScope
  rw [inScope_run]
  exact (hbound.bind fun _ => hbody) _ hopened

theorem safe_forEach {binding : String} {index : Option String} {below : Nat}
    {own : List (String × Expr)} {body : Run Unit}
    (hnames : ∀ name ∈ binding :: index.toList, isBindable name = true)
    (hmakes : Makes input below own body)
    (hbody : Safe (env.bindNames (binding :: index.toList)).At (fun _ _ => True) body) (i : Nat)
    (items : List Json) : Safe env.At (fun _ => env.At) (forEach binding index body i items) := by
  induction items generalizing i with
  | nil => exact fun _ h => h
  | cons item rest ih =>
      exact (safe_inScope (safe_round hnames item i) hmakes hbody).bind fun _ => ih (i + 1)

end Run

/-! ## Operands of instructions -/

section Operands

variable {env : Environment} {allowed : List Expr}

theorem Plan.Faultless.color {c : Option Expr} (hc : c.toList ⊆ allowed)
    (hcolor : ∀ e ∈ c.toList, e.known env = .color) :
    (Plan.color c).Faultless (Expr.HasKnownValue env) allowed fun _ => True := by
  cases c with
  | none => exact True.intro
  | some e =>
      obtain ⟨he, -⟩ := List.cons_subset.mp hc
      apply (Plan.Faultless.value he 0).bind
      intro value hvalue
      rw [Expr.HasKnownValue, hcolor e List.mem_cons_self] at hvalue
      obtain ⟨color, hok⟩ := hvalue
      rw [hok]
      exact True.intro

theorem Plan.Faultless.width {op : String} {absent : Float} {w : Option Expr}
    (hw : w.toList ⊆ allowed) :
    (Plan.width op absent w).Faultless (Expr.HasKnownValue env) allowed fun _ => True := by
  cases w with
  | none => exact True.intro
  | some e =>
      obtain ⟨he, -⟩ := List.cons_subset.mp hw
      exact (Plan.Faultless.number he 0 op).bind fun _ _ => True.intro

theorem FrameExpr.faultless_plan {f : FrameExpr} (hf : f.exprs ⊆ allowed) :
    f.plan.Faultless (Expr.HasKnownValue env) allowed fun _ => True := by
  simp only [FrameExpr.exprs, List.cons_subset] at hf
  obtain ⟨hx, hy, hw, hh, -⟩ := hf
  refine (Plan.Faultless.number hx 0 "x").bind fun x _ =>
    (Plan.Faultless.number hy 0 "y").bind fun y _ =>
      (Plan.Faultless.number hw 0 "w").bind fun w _ =>
        (Plan.Faultless.number hh 0 "h").bind fun h _ => ?_
  by_cases hwidth : w < 0
  · simp only [if_pos hwidth]
    exact rfl
  · by_cases hheight : h < 0
    · simp only [if_neg hwidth, if_pos hheight]
      exact rfl
    · simp only [if_neg hwidth, if_neg hheight]
      exact True.intro

theorem PointExpr.faultless_plan {p : PointExpr} (hp : p.exprs ⊆ allowed) :
    p.plan.Faultless (Expr.HasKnownValue env) allowed fun _ => True := by
  simp only [PointExpr.exprs, List.cons_subset] at hp
  obtain ⟨hx, hy, -⟩ := hp
  exact (Plan.Faultless.number hx 0 "connector").bind fun _ _ =>
    (Plan.Faultless.number hy 0 "connector").bind fun _ _ => True.intro

theorem TextSpec.faultless_plan (theme : Theme) {t : TextSpec} (ht : t.exprs ⊆ allowed)
    (hcolor : ∀ e ∈ t.color.toList, e.known env = .color) :
    (t.plan theme).Faultless (Expr.HasKnownValue env) allowed fun _ => True := by
  simp only [TextSpec.exprs, List.cons_append, List.cons_subset, List.append_subset] at ht
  obtain ⟨htext, hframe, hsize, hc⟩ := ht
  refine (Plan.Faultless.text htext "text").bind fun content _ =>
    (FrameExpr.faultless_plan hframe).bind fun frame _ =>
      (Plan.Faultless.number hsize 0 "fontSize").bind fun fontSize _ => ?_
  by_cases hsize : fontSize ≤ 0
  · simp only [if_pos hsize]
    exact rfl
  · simp only [if_neg hsize]
    exact (Plan.Faultless.color hc hcolor).bind fun _ _ => True.intro

theorem ShapeSpec.faultless_plan {s : ShapeSpec} (hs : s.exprs ⊆ allowed)
    (hcolor : ∀ e ∈ s.fill.toList ++ s.stroke.toList, e.known env = .color) :
    s.plan.Faultless (Expr.HasKnownValue env) allowed fun _ => True := by
  simp only [ShapeSpec.exprs, List.append_subset] at hs
  obtain ⟨⟨⟨hframe, hfill⟩, hstroke⟩, hwidth⟩ := hs
  obtain ⟨hfillColor, hstrokeColor⟩ := List.forall_mem_append.mp hcolor
  exact (FrameExpr.faultless_plan hframe).bind fun _ _ =>
    (Plan.Faultless.color hfill hfillColor).bind fun _ _ =>
      (Plan.Faultless.color hstroke hstrokeColor).bind fun _ _ =>
        (Plan.Faultless.width hwidth).bind fun _ _ => True.intro

theorem ConnectorSpec.faultless_plan (theme : Theme) {c : ConnectorSpec} (hc : c.exprs ⊆ allowed)
    (hcolor : ∀ e ∈ c.color.toList, e.known env = .color) :
    (c.plan theme).Faultless (Expr.HasKnownValue env) allowed fun _ => True := by
  simp only [ConnectorSpec.exprs, List.append_subset] at hc
  obtain ⟨⟨⟨hsource, htarget⟩, hexprs⟩, hwidth⟩ := hc
  exact (PointExpr.faultless_plan hsource).bind fun _ _ =>
    (PointExpr.faultless_plan htarget).bind fun _ _ =>
      (Plan.Faultless.color hexprs hcolor).bind fun _ _ =>
        (Plan.Faultless.width hwidth).bind fun _ _ => True.intro

end Operands

/-! ## Instructions -/

namespace Run

variable {env : Environment} {input : RunInput} {depth : Nat}

theorem faultless_loopItems (limits : ExecutionLimits) (value : Json) :
    Faultless (fun _ => True) (loopItems limits value) := by
  unfold loopItems
  split
  · split
    · exact rfl
    · exact True.intro
  · exact rfl

theorem safe_emit (limits : ExecutionLimits) (op : DrawOp) :
    Safe env.At (fun _ => env.At) (emit limits op) := by
  intro state hstate
  rw [emit_run]
  by_cases hfull : limits.maxDrawOps ≤ state.ops.length
  · rw [if_pos hfull]
    exact rfl
  · rw [if_neg hfull]
    exact hstate

/-- An evaluation leaves the scopes as they are. -/
theorem safe_evaluate {α : Type} {q : α → Prop} {make : List Scope → Eval α}
    (h : ∀ scopes, env.Describes scopes → Safe (fun _ => True) (fun a _ => q a) (make scopes)) :
    Safe env.At (fun a state => q a ∧ env.At state) (evaluate make) := by
  intro state hstate
  exact (h state.scopes hstate state.steps True.intro).mono fun _ ha => ⟨ha, hstate⟩

/-- An instruction makes no mistake when its action makes none, whatever its operands come to. -/
theorem safe_of_plan {i : Instruction} (h : i.isSafeHere env = true)
    {post : Unit → RunState → Prop}
    (hplan : (i.plan input).Faultless (Expr.HasKnownValue env) i.ownExprs fun action =>
      Safe env.At post (action.perform input.limits (block input (depth + 1)))) :
    Safe env.At post (instruction input depth i) := by
  obtain ⟨-, hexprs, -⟩ := Instruction.isSafeHere_iff.mp h
  rw [instruction_eq]
  apply (safe_evaluate fun _ _ => Safe.tick input.limits depth).bind
  intro _
  have hcarried : Safe env.At post ((i.plan input).carryOut (operandBelow input depth) >>=
      fun action => action.perform input.limits (block input (depth + 1))) := by
    refine hplan.carryOut_bind (fun below e he => ?_) fun _ haction => haction
    exact safe_evaluate fun scopes hscopes => Expr.safe_eval hscopes e (hexprs e he) _
  exact hcarried.mono (fun _ hstate => hstate.2) fun _ _ hended => hended

variable (input)

mutual

/-- An instruction that keeps to what is known makes no mistake and makes the binding that it is
known to make. -/
theorem safe_instruction (env : Environment) (depth : Nat) (i : Instruction)
    (h : i.isSafe env = true) :
    Safe env.At (fun _ => (i.extend env).At) (instruction input depth i) := by
  have hhere := Instruction.isSafeHere_of_isSafe h
  obtain ⟨hnames, -, hcolors⟩ := Instruction.isSafeHere_iff.mp hhere
  apply safe_of_plan hhere
  cases i with
  | bind name value =>
      exact (Plan.Faultless.value List.mem_cons_self 0).bind fun v hv =>
        safe_bind (hnames name List.mem_cons_self) hv
  | text t =>
      exact (TextSpec.faultless_plan input.theme (List.Subset.refl _) hcolors).bind fun _ _ =>
        safe_emit input.limits _
  | shape s =>
      exact (ShapeSpec.faultless_plan (List.Subset.refl _) hcolors).bind fun _ _ =>
        safe_emit input.limits _
  | connector c =>
      exact (ConnectorSpec.faultless_plan input.theme (List.Subset.refl _) hcolors).bind fun _ _ =>
        safe_emit input.limits _
  | branch c a b =>
      obtain ⟨ha, hb⟩ := Instruction.isSafe_branch h
      apply (Plan.Faultless.value List.mem_cons_self 0).bind
      intro value _
      cases value.truthy with
      | true =>
          exact safe_inScope (fun _ h => h) (makes_block input (depth + 1) a)
            (safe_block env (depth + 1) a ha)
      | false =>
          exact safe_inScope (fun _ h => h) (makes_block input (depth + 1) b)
            (safe_block env (depth + 1) b hb)
  | each source binding index body =>
      apply (Plan.Faultless.value List.mem_cons_self 0).bind
      intro value _
      apply (Plan.Faultless.done (faultless_loopItems input.limits value)).bind
      intro items _
      exact safe_forEach hnames (makes_block input (depth + 1) body)
        (safe_block _ (depth + 1) body (Instruction.isSafe_each h)) 0 items

/-- A block whose instructions keep to what is known makes no mistake. -/
theorem safe_block (env : Environment) (depth : Nat) (body : List Instruction)
    (h : Instruction.areSafe env body = true) :
    Safe env.At (fun _ _ => True) (block input depth body) := by
  cases body with
  | nil => exact fun _ _ => True.intro
  | cons i rest =>
      obtain ⟨hfirst, hrest⟩ := Instruction.areSafe_cons.mp h
      exact (safe_instruction env depth i hfirst).bind fun _ => safe_block _ depth rest hrest

end

end Run

/-! ## Programs -/

namespace Instruction

mutual

/-- Every part of an instruction is checked where it stands. -/
theorem exists_isSafeHere_of_mem_parts {env : Environment} {i j : Instruction}
    (h : i.isSafe env = true) (hj : j ∈ i.parts) : ∃ inner, j.isSafeHere inner = true := by
  cases i with
  | bind _ _ | text _ | shape _ | connector _ =>
      obtain rfl := List.mem_singleton.mp hj
      exact ⟨env, isSafeHere_of_isSafe h⟩
  | branch c a b =>
      obtain ⟨ha, hb⟩ := isSafe_branch h
      rcases List.mem_cons.mp hj with rfl | hj
      · exact ⟨env, isSafeHere_of_isSafe h⟩
      · rcases List.mem_append.mp hj with hj | hj
        · exact exists_isSafeHere_of_mem_partsOfAll ha hj
        · exact exists_isSafeHere_of_mem_partsOfAll hb hj
  | each source binding index body =>
      rcases List.mem_cons.mp hj with rfl | hj
      · exact ⟨env, isSafeHere_of_isSafe h⟩
      · exact exists_isSafeHere_of_mem_partsOfAll (isSafe_each h) hj

theorem exists_isSafeHere_of_mem_partsOfAll {env : Environment} {body : List Instruction}
    {j : Instruction} (h : areSafe env body = true) (hj : j ∈ partsOfAll body) :
    ∃ inner, j.isSafeHere inner = true := by
  cases body with
  | nil => cases hj
  | cons i rest =>
      obtain ⟨hfirst, hrest⟩ := areSafe_cons.mp h
      rcases List.mem_append.mp hj with hj | hj
      · exact exists_isSafeHere_of_mem_parts hfirst hj
      · exact exists_isSafeHere_of_mem_partsOfAll hrest hj

end

end Instruction

namespace RenderProgram

variable {p : RenderProgram} {input : RunInput}

/-- A program that keeps to what it binds binds only names that can be bound. -/
theorem bindable_of_isSafe (h : p.isSafe = true) {name : String} (hname : name ∈ p.names) :
    Run.Bindable name := by
  obtain ⟨i, hi, hname⟩ := List.mem_flatMap.mp hname
  obtain ⟨env, hhere⟩ := Instruction.exists_isSafeHere_of_mem_partsOfAll h hi
  exact Run.isBindable_iff.mp ((Instruction.isSafeHere_iff.mp hhere).1 name hname)

/-- A program that keeps to what it binds fails for its data and its limits only. -/
theorem isMistake_of_execute (h : p.isSafe = true) {e : ExecutionError}
    (hfailed : p.execute input = .error e) : e.isMistake = false := by
  have hended := Run.safe_block input [] 0 p.body h .initial Environment.describes_initial
  rw [execute_eq] at hfailed
  cases hrun : (p.run input).1 with
  | ok done =>
      rw [hrun] at hfailed
      cases hfailed
  | error stop =>
      rw [hrun] at hfailed
      obtain rfl := Except.error.inj hfailed
      rw [show ((Run.block input 0 p.body).run.run .initial).1 = .error stop from hrun] at hended
      exact hended

/-- A program that reads the item of a loop behind the loop does not keep to what it binds. -/
example : isSafe ⟨[.each (.var "data.topics") "topic" none [.bind "line" (.var "topic")],
    .bind "last" (.var "topic")]⟩ = false := by decide

/-- Wherever a run comes, the scopes bind what the instructions that are left keep to. -/
theorem Reaches.exists_environment (hsafe : p.isSafe = true) {depth : Nat}
    {body : List Instruction} {state : RunState} (h : p.Reaches input depth body state) :
    ∃ env : Environment, env.At state ∧ Instruction.areSafe env body = true := by
  induction h with
  | start => exact ⟨[], Environment.describes_initial, hsafe⟩
  | @next depth i rest state after _ hrun ih =>
      obtain ⟨env, henv, hbody⟩ := ih
      obtain ⟨hfirst, hrest⟩ := Instruction.areSafe_cons.mp hbody
      have hended := Run.safe_instruction input env depth i hfirst state henv
      rw [hrun] at hended
      exact ⟨i.extend env, hended, hrest⟩
  | @branch depth c a b rest state after value _ hvalue ih =>
      obtain ⟨env, henv, hbody⟩ := ih
      obtain ⟨ha, hb⟩ := Instruction.isSafe_branch (Instruction.areSafe_cons.mp hbody).1
      have hentered := henv.of_scopes_eq (Run.scopes_of_firstOperand hvalue)
      refine ⟨env, hentered.openScope, ?_⟩
      cases value.truthy with
      | true => exact ha
      | false => exact hb
  | @round depth source binding index body rest state entered before opened value item front back
      _ hvalue _ hfront hopened ih =>
      obtain ⟨env, henv, hbody⟩ := ih
      have heach := (Instruction.areSafe_cons.mp hbody).1
      obtain ⟨hnames, -⟩ :=
        Instruction.isSafeHere_iff.mp (Instruction.isSafeHere_of_isSafe heach)
      have hbefore := henv.of_scopes_eq (Run.scopes_before_round hvalue hfront)
      have hbound := Run.safe_round hnames item front.length
        { before with scopes := [] :: before.scopes } hbefore.openScope
      rw [hopened] at hbound
      exact ⟨_, hbound, Instruction.isSafe_each heach⟩

section Points

variable {depth : Nat} {i : Instruction} {rest : List Instruction} {state : RunState}

theorem Reaches.exists_isSafeHere (hsafe : p.isSafe = true)
    (h : p.Reaches input depth (i :: rest) state) :
    ∃ env : Environment, env.At state ∧ i.isSafeHere env = true := by
  obtain ⟨env, henv, hbody⟩ := h.exists_environment hsafe
  exact ⟨env, henv, Instruction.isSafeHere_of_isSafe (Instruction.areSafe_cons.mp hbody).1⟩

/-- Every path that the next instruction reads leads to a value. -/
theorem Reaches.exists_resolve (hsafe : p.isSafe = true)
    (h : p.Reaches input depth (i :: rest) state) {path : String}
    (hpath : path ∈ Expr.pathsOfAll i.ownExprs) :
    ∃ value, input.resolve state.scopes path = .ok value := by
  obtain ⟨env, henv, hhere⟩ := h.exists_isSafeHere hsafe
  obtain ⟨e, he, hpath⟩ := Expr.mem_pathsOfAll.mp hpath
  have hexpr := (Instruction.isSafeHere_iff.mp hhere).2.1 e he
  have hvar := Expr.isSafe_of_mem_parts hexpr (Expr.mem_paths_iff_var_mem_parts.mp hpath)
  exact Environment.Describes.exists_resolve henv (Expr.isSafe_iff.mp hvar).1 input

/-- Whatever the next instruction takes for a colour is one. -/
theorem Reaches.exists_color (hsafe : p.isSafe = true)
    (h : p.Reaches input depth (i :: rest) state) {e : Expr} (he : e ∈ i.colorExprs)
    {below steps : Nat} {value : Json}
    (hvalue : ((e.eval input state.scopes below).run.run steps).1 = .ok value) :
    ∃ color, Run.colorOf value = .ok color := by
  obtain ⟨env, henv, hhere⟩ := h.exists_isSafeHere hsafe
  obtain ⟨-, hexprs, hcolors⟩ := Instruction.isSafeHere_iff.mp hhere
  have hknown := Expr.hasKnownValue_of_eval henv (hexprs e (i.colorExprs_subset he)) hvalue
  rwa [Expr.HasKnownValue, hcolors e he] at hknown

/-- Whatever the next instruction divides by is above zero. -/
theorem Reaches.zero_lt_divisor (hsafe : p.isSafe = true)
    (h : p.Reaches input depth (i :: rest) state) {op : ArithOp} {a b : Expr}
    (hop : op = .div ∨ op = .mod) (hpart : .arith op a b ∈ Expr.partsOfAll i.ownExprs)
    {below steps : Nat} {value : Json}
    (hvalue : ((b.eval input state.scopes below).run.run steps).1 = .ok value) :
    ∃ x, value.toFloat? = some x ∧ 0 < x := by
  obtain ⟨env, henv, hhere⟩ := h.exists_isSafeHere hsafe
  obtain ⟨e, he, hpart⟩ := Expr.mem_partsOfAll.mp hpart
  have hexpr := (Instruction.isSafeHere_iff.mp hhere).2.1 e he
  obtain ⟨hself, hoperands⟩ := Expr.isSafe_iff.mp (Expr.isSafe_of_mem_parts hexpr hpart)
  have hpositive := Expr.known_divisor hop hself
  have hdivisor : b.isSafe env = true := hoperands b (List.mem_cons_of_mem a List.mem_cons_self)
  have hknown := Expr.hasKnownValue_of_eval henv hdivisor hvalue
  rwa [Expr.HasKnownValue, hpositive] at hknown

end Points

end RenderProgram

end SlideDeck
