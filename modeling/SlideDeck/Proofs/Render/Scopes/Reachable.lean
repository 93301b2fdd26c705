import SlideDeck.Proofs.Render.Scopes.Visibility

/-!
# Where a run comes

A run comes to a point with the instructions that are left of a block, the depth of the block and
a state. From there it may come to the point behind the first instruction or into the body that
this opens a scope for. At every point as many scopes are open as blocks have been entered, and
what is bound in them has a name that programs may bind.
-/

namespace SlideDeck

/-- What an instruction does first: it takes a step and evaluates its operand. -/
def Run.firstOperand (input : RunInput) (depth : Nat) (e : Expr) : Run Json := do
  evaluate fun _ => Eval.tick input.limits depth
  operand input depth e

/-- The points that a run of a program comes to: the depth of a block, what is left of it, and
the state. -/
inductive RenderProgram.Reaches (p : RenderProgram) (input : RunInput) :
    Nat → List Instruction → RunState → Prop
  | start : Reaches p input 0 p.body .initial
  /-- An instruction has been carried out. -/
  | next {depth : Nat} {i : Instruction} {rest : List Instruction} {state after : RunState}
      (h : Reaches p input depth (i :: rest) state)
      (hrun : (Run.instruction input depth i).run.run state = (.ok (), after)) :
      Reaches p input depth rest after
  /-- A branch has been entered. -/
  | branch {depth : Nat} {c : Expr} {a b rest : List Instruction} {state after : RunState}
      {value : Json} (h : Reaches p input depth (.branch c a b :: rest) state)
      (hvalue : (Run.firstOperand input depth c).run.run state = (.ok value, after)) :
      Reaches p input (depth + 1) (if value.truthy then a else b)
        { after with scopes := [] :: after.scopes }
  /-- A loop has run its body for the items in front of another one, which is bound now. -/
  | round {depth : Nat} {source : Expr} {binding : String} {index : Option String}
      {body rest : List Instruction} {state entered before opened : RunState}
      {value item : Json} {front back : List Json}
      (h : Reaches p input depth (.each source binding index body :: rest) state)
      (hvalue : (Run.firstOperand input depth source).run.run state = (.ok value, entered))
      (hitems : Run.loopItems input.limits value = .ok (front ++ item :: back))
      (hfront : (Run.forEach binding index (Run.block input (depth + 1) body) 0 front).run.run
        entered = (.ok (), before))
      (hopened : (Run.bindAll ((binding, item) ::
          index.toList.map fun name => (name, .ofNat front.length))).run.run
        { before with scopes := [] :: before.scopes } = (.ok (), opened)) :
      Reaches p input (depth + 1) body opened

/-- A run comes behind the front of a block once it has been carried out. -/
theorem RenderProgram.Reaches.append {p : RenderProgram} {input : RunInput} {depth : Nat}
    {front rest : List Instruction} {state after : RunState}
    (h : p.Reaches input depth (front ++ rest) state)
    (hrun : (Run.block input depth front).run.run state = (.ok (), after)) :
    p.Reaches input depth rest after := by
  induction front generalizing state with
  | nil =>
      cases hrun
      exact h
  | cons i front ih =>
      unfold Run.block at hrun
      rw [run_bind_run] at hrun
      rcases hfirst : (Run.instruction input depth i).run.run state with ⟨e | _, middle⟩
      · rw [hfirst] at hrun
        cases hrun
      · rw [hfirst] at hrun
        exact ih (h.next hfirst) hrun

/-- A run comes into the first round of a loop that has any. -/
theorem RenderProgram.Reaches.firstRound {p : RenderProgram} {input : RunInput} {depth : Nat}
    {source : Expr} {binding : String} {index : Option String} {body rest : List Instruction}
    {state entered opened : RunState} {item : Json} {back : List Json}
    (h : p.Reaches input depth (.each source binding index body :: rest) state)
    (hvalue : (Run.firstOperand input depth source).run.run state =
      (.ok (.array (item :: back)), entered))
    (hlimit : back.length < input.limits.maxLoopItems)
    (hopened : (Run.bindAll ((binding, item) ::
        index.toList.map fun name => (name, .ofNat 0))).run.run
      { entered with scopes := [] :: entered.scopes } = (.ok (), opened)) :
    p.Reaches input (depth + 1) body opened := by
  have hitems : Run.loopItems input.limits (.array (item :: back)) = .ok ([] ++ item :: back) :=
    if_neg (Nat.not_lt_of_le hlimit)
  exact .round h hvalue hitems rfl hopened

namespace Run

variable {α : Type} {input : RunInput} {depth : Nat} {own : List (String × Expr)}
  {state after : RunState}

/-- The scopes of a state: one for every block that has been entered, and proper. -/
structure Nested (depth : Nat) (state : RunState) : Prop where
  length : state.scopes.length = depth + 1
  proper : Scope.Proper state.scopes

/-- A computation that makes bindings keeps the scopes nested and proper. -/
theorem Makes.nested {below : Nat} {x : Run α} (h : Makes input below own x)
    (hstate : Nested depth state) : Nested depth (x.run.run state).2 := by
  obtain ⟨_, _, _, hended⟩ := h.ended state
  exact ⟨hended.scopes.length_eq.trans hstate.length, hstate.proper.binds hended.scopes⟩

theorem Nested.openScope (h : Nested depth state) :
    Nested (depth + 1) { state with scopes := [] :: state.scopes } :=
  ⟨congrArg (· + 1) h.length, h.proper.openScope⟩

theorem Nested.bindAll (bindings : List (String × Json)) (h : Nested depth state) :
    Nested depth ((bindAll bindings).run.run state).2 := by
  obtain ⟨scope, outer, hscopes⟩ := List.exists_cons_of_length_eq_add_one h.length
  obtain ⟨inner, hinner⟩ := exists_scope_bindAll bindings state hscopes
  refine ⟨?_, h.proper.bindAll bindings⟩
  rw [← h.length, hinner, hscopes, List.length_cons, List.length_cons]

theorem makes_firstOperand (input : RunInput) (depth : Nat) (e : Expr) :
    Makes input depth [] (firstOperand input depth e) :=
  (makes_evaluate _).bind fun _ => makes_evaluate _

theorem scopes_of_firstOperand {e : Expr} {value : Json}
    (hvalue : (firstOperand input depth e).run.run state = (.ok value, after)) :
    after.scopes = state.scopes := by
  have hended := (makes_firstOperand input depth e).scopes_eq state
  rwa [hvalue] at hended

/-- In front of every round of a loop the scopes are those in front of the loop. -/
theorem scopes_before_round {source : Expr} {binding : String} {index : Option String}
    {body : List Instruction} {entered before : RunState} {value : Json} {front : List Json}
    (hvalue : (firstOperand input depth source).run.run state = (.ok value, entered))
    (hfront : (forEach binding index (block input (depth + 1) body) 0 front).run.run entered =
      (.ok (), before)) : before.scopes = state.scopes := by
  have hloop : Makes input depth []
      (forEach binding index (block input (depth + 1) body) 0 front) :=
    (makes_block input (depth + 1) body).forEach binding index 0 front
  have hended := hloop.scopes_eq entered
  rw [hfront] at hended
  exact hended.trans (scopes_of_firstOperand hvalue)

theorem Nested.of_scopes_eq (h : Nested depth state) (hscopes : after.scopes = state.scopes) :
    Nested depth after :=
  ⟨hscopes ▸ h.length, hscopes ▸ h.proper⟩

end Run

/-- Wherever a run comes, the scopes are nested and proper. -/
theorem RenderProgram.Reaches.nested {p : RenderProgram} {input : RunInput} {depth : Nat}
    {body : List Instruction} {state : RunState} (h : p.Reaches input depth body state) :
    Run.Nested depth state := by
  induction h with
  | start => exact ⟨rfl, Scope.Proper.initial⟩
  | @next depth i rest state after _ hrun ih =>
      have hended := (Run.makes_instruction input depth i).nested ih
      rwa [hrun] at hended
  | @branch depth c a b rest state after value _ hvalue ih =>
      exact (ih.of_scopes_eq (Run.scopes_of_firstOperand hvalue)).openScope
  | @round depth source binding index body rest state entered before opened value item front back
      _ hvalue _ hfront hopened ih =>
      have hbefore := ih.of_scopes_eq (Run.scopes_before_round hvalue hfront)
      have hended := hbefore.openScope.bindAll
        ((binding, item) :: index.toList.map fun name => (name, .ofNat front.length))
      rwa [hopened] at hended

/-! ## Variables -/

/-- A variable is looked up once its step has been granted. -/
theorem Expr.eval_var_eq_unknownVariable_iff {input : RunInput} {scopes : List Scope}
    {path : String} {depth steps : Nat} :
    (((Expr.var path).eval input scopes depth).run.run steps).1 = .error (.unknownVariable path) ↔
      steps < input.limits.maxSteps ∧ depth ≤ input.limits.maxDepth ∧
        input.resolve scopes path = .error (.unknownVariable path) := by
  rw [eval_eq, run_bind_run, tick_run]
  by_cases hsteps : input.limits.maxSteps < steps + 1
  · rw [if_pos hsteps]
    exact iff_of_false nofun fun h => absurd h.1 (by omega)
  · by_cases hdepth : input.limits.maxDepth < depth
    · rw [if_neg hsteps, if_pos hdepth]
      exact iff_of_false nofun fun h => absurd h.2.1 (by omega)
    · rw [if_neg hsteps, if_neg hdepth]
      exact ⟨fun h => ⟨by omega, by omega, h⟩, fun h => h.2.2⟩

namespace RenderProgram

/-- From whatever state and however it ends, an evaluation changes neither the scopes nor the
drawing, and a block changes the innermost scope by its own bindings and adds to the drawing.
Wherever a run comes, then, it has bound no name that is empty, dotted or an input: a path that
starts at an input reads that input of the run, and a variable is unknown just when its path
starts neither at an input nor at a name that is bound. -/
theorem scopes_of_run (input : RunInput) :
    (∀ (e : Expr) (depth : Nat) (state : RunState),
      let ended := ((Run.evaluate fun scopes => e.eval input scopes depth).run.run state).2
      ended.scopes = state.scopes ∧ ended.ops = state.ops) ∧
    (∀ (depth : Nat) (body : List Instruction) (state : RunState),
      let ended := (Run.block input depth body).run.run state
      ended.2.scopes.tail = state.scopes.tail ∧
      ended.2.scopes.length = state.scopes.length ∧
      state.ops <+: ended.2.ops ∧
      ∃ made, made <+: Instruction.bindings body ∧
        (ended.1 = .ok () → made = Instruction.bindings body) ∧
        Run.Binds input depth made state.scopes ended.2.scopes) ∧
    ∀ (p : RenderProgram) (depth : Nat) (body : List Instruction) (state : RunState),
      p.Reaches input depth body state →
      state.scopes.length = depth + 1 ∧
      (∀ name, Scope.Bound state.scopes name → Run.Bindable name) ∧
      (∀ name, Scope.Bound ((Run.block input depth body).run.run state).2.scopes name →
        Run.Bindable name) ∧
      ∀ path,
        let first := Expr.firstSegment path
        let rest := (Expr.segments path).tail
        let unknown := (first ≠ "canvas" ∧ first ≠ "data" ∧ first ≠ "theme") ∧
          ¬ Scope.Bound state.scopes first
        (first = "canvas" →
          input.resolve state.scopes path = .ok (Canvas.slide.toJson.follow rest)) ∧
        (first = "data" → input.resolve state.scopes path = .ok (input.data.follow rest)) ∧
        (first = "theme" →
          input.resolve state.scopes path = .ok (input.theme.programValue.follow rest)) ∧
        (∀ e, input.resolve state.scopes path = .error e ↔
          e = .unknownVariable path ∧ unknown) ∧
        ∀ depth steps,
          (((Expr.var path).eval input state.scopes depth).run.run steps).1 =
              .error (.unknownVariable path) ↔
            steps < input.limits.maxSteps ∧ depth ≤ input.limits.maxDepth ∧ unknown := by
  refine ⟨fun _ _ _ => ⟨rfl, rfl⟩, fun depth body state => ?_, fun p depth body state h => ?_⟩
  · obtain ⟨made, hmade, hall, hended⟩ := (Run.makes_block input depth body).ended state
    exact ⟨hended.scopes.tail_eq, hended.scopes.length_eq, hended.ops, made, hmade,
      fun hok => hall ⟨(), hok⟩, hended.scopes⟩
  · obtain ⟨hlength, hproper⟩ := h.nested
    refine ⟨hlength, hproper, ((Run.makes_block input depth body).nested h.nested).proper,
      fun path => ?_⟩
    have hroot : ∀ name value, input.root? name = some value → Expr.firstSegment path = name →
        input.resolve state.scopes path = .ok (value.follow (Expr.segments path).tail) :=
      fun _ _ hvalue hfirst => RunInput.resolve_of_root? hproper (hfirst ▸ hvalue)
    refine ⟨hroot _ _ rfl, hroot _ _ rfl, hroot _ _ rfl, fun e => ?_, fun depth steps => ?_⟩
    · rw [RunInput.resolve_eq_error_iff, RunInput.root?_eq_none_iff]
    · rw [Expr.eval_var_eq_unknownVariable_iff, RunInput.resolve_eq_error_iff,
        RunInput.root?_eq_none_iff]
      simp only [true_and]

/-- A program with a binding of its own and one in the body of a loop. -/
def agenda : RenderProgram :=
  ⟨[.bind "title" (.string "Agenda"),
    .each (.var "data.topics") "topic" (some "i") [.bind "line" (.var "topic")],
    .bind "last" (.var "topic")]⟩

/-- The data of an agenda with one topic. -/
def agendaInput : RunInput :=
  ⟨.standard, .standard, .object [("topics", .array [.string "Costs"])]⟩

/-- In the loop the topic is bound, and the data is what the run was given. Behind the loop the
topic is unknown. -/
theorem scopes_of_run_agenda :
    (∃ state, agenda.Reaches agendaInput 1 [.bind "line" (.var "topic")] state ∧
      Scope.Bound state.scopes "topic" ∧ Run.Bindable "topic" ∧
      agendaInput.resolve state.scopes "data.topics" = .ok (.array [.string "Costs"])) ∧
    ∃ state, agenda.Reaches agendaInput 0 [.bind "last" (.var "topic")] state ∧
      agendaInput.resolve state.scopes "topic" = .error (.unknownVariable "topic") := by
  obtain ⟨_, _, hpoints⟩ := scopes_of_run agendaInput
  have hloop : agenda.Reaches agendaInput 0 (agenda.body.drop 1)
      ⟨[[("title", .string "Agenda")]], 2, []⟩ := .next .start rfl
  have hfront : Run.loopItems agendaInput.limits (.array [.string "Costs"]) =
      .ok ([] ++ .string "Costs" :: []) := rfl
  constructor
  · have hround : agenda.Reaches agendaInput 1 [.bind "line" (.var "topic")]
        ⟨[[("topic", .string "Costs"), ("i", .ofNat 0)], [("title", .string "Agenda")]], 4, []⟩ :=
      .round hloop rfl hfront rfl rfl
    obtain ⟨_, hbindable, _, hpaths⟩ := hpoints _ _ _ _ hround
    have hbound : Scope.Bound [[("topic", .string "Costs"), ("i", .ofNat 0)],
        [("title", .string "Agenda")]] "topic" :=
      ⟨_, List.mem_cons_self, _, List.mem_cons_self⟩
    exact ⟨_, hround, hbound, hbindable "topic" hbound, (hpaths "data.topics").2.1 rfl⟩
  · have hbehind : agenda.Reaches agendaInput 0 [.bind "last" (.var "topic")]
        ⟨[[("title", .string "Agenda")]], 6, []⟩ := .next hloop rfl
    obtain ⟨_, _, _, hpaths⟩ := hpoints _ _ _ _ hbehind
    obtain ⟨_, _, _, hunknown, _⟩ := hpaths "topic"
    refine ⟨_, hbehind, (hunknown _).mpr ⟨rfl, by decide, ?_⟩⟩
    rintro ⟨scope, hscope, value, hvalue⟩
    rw [List.mem_singleton.mp hscope] at hvalue
    have hname : "topic" = "title" := congrArg Prod.fst (List.mem_singleton.mp hvalue)
    exact absurd hname (by decide)

end RenderProgram

end SlideDeck
