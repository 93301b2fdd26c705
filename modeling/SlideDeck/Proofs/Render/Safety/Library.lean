import SlideDeck.Library.Core
import SlideDeck.Proofs.Render.Safety.Instructions

/-!
# The core library makes no mistakes

Every program of the core library keeps to what it binds: it reads no name that may be unbound where
it is read, binds no name of an input, takes only colours for colours and divides only by two or by
a number of columns that is at least one. So whatever the payload, the theme and the limits are,
none of its runs fails for a name, a colour or a divisor.
-/

namespace SlideDeck

namespace Library

theorem isSafe_core : (core.all fun c => c.renderProgram.isSafe) = true := by decide +kernel

theorem isSafe_of_mem_core {c : Component} (hc : c ∈ core) : c.renderProgram.isSafe = true :=
  List.all_eq_true.mp isSafe_core c hc

variable {c : Component}

theorem isMistake_of_execute (hc : c ∈ core) {input : RunInput} {e : ExecutionError}
    (h : c.renderProgram.execute input = .error e) : e.isMistake = false :=
  RenderProgram.isMistake_of_execute (isSafe_of_mem_core hc) h

/-- Whatever a core component is run with, no run fails for a name that is unknown or cannot be
bound, or for a colour. All names that its program binds can be bound. Wherever a run comes, every
path that the next instruction reads leads to a value, and whatever it takes for a colour is one. -/
theorem core_names_bound_and_colors_valid (hc : c ∈ core) (input : RunInput) :
    ((∀ path, c.renderProgram.execute input ≠ .error (.unknownVariable path)) ∧
      (∀ name, c.renderProgram.execute input ≠ .error (.invalidBinding name)) ∧
      ∀ text, c.renderProgram.execute input ≠ .error (.invalidColor text)) ∧
    (∀ name ∈ c.renderProgram.names, Run.Bindable name) ∧
    ∀ (depth : Nat) (i : Instruction) (rest : List Instruction) (state : RunState),
      c.renderProgram.Reaches input depth (i :: rest) state →
      (∀ path ∈ Expr.pathsOfAll i.ownExprs,
        ∃ value, input.resolve state.scopes path = .ok value) ∧
      ∀ e ∈ i.colorExprs, ∀ (depth steps : Nat) (value : Json),
        ((e.eval input state.scopes depth).run.run steps).1 = .ok value →
        ∃ color, Run.colorOf value = .ok color := by
  have hsafe := isSafe_of_mem_core hc
  refine ⟨⟨fun path h => ?_, fun name h => ?_, fun text h => ?_⟩,
    fun name => RenderProgram.bindable_of_isSafe hsafe, fun depth i rest state hreached => ?_⟩
  · cases isMistake_of_execute hc h
  · cases isMistake_of_execute hc h
  · cases isMistake_of_execute hc h
  · exact ⟨fun path hpath => hreached.exists_resolve hsafe hpath,
      fun e he below steps value hvalue => hreached.exists_color hsafe he hvalue⟩

/-- A run without any payload. -/
def emptyInput : RunInput := ⟨.standard, .standard, .null⟩

/-- Without a payload a section divider fails for the name of the section, which is no text. The
shape that it starts with is as wide as the canvas and has a colour of the theme. -/
theorem core_names_bound_and_colors_valid_divider :
    sectionDivider.renderProgram.execute emptyInput =
        .error (.typeMismatch "text" "text" (some .null)) ∧
      (∀ path, sectionDivider.renderProgram.execute emptyInput ≠ .error (.unknownVariable path)) ∧
      (∃ value, emptyInput.resolve RunState.initial.scopes "canvas.width" = .ok value) ∧
      (∃ color, Run.colorOf (.string "0066CC") = .ok color) ∧ Run.Bindable "cols" := by
  have hdivider : sectionDivider ∈ core := by simp [core]
  have hdashboard : kpiDashboard ∈ core := by simp [core]
  obtain ⟨⟨hunknown, -, -⟩, -, hpoints⟩ := core_names_bound_and_colors_valid hdivider emptyInput
  obtain ⟨-, hnames, -⟩ := core_names_bound_and_colors_valid hdashboard emptyInput
  obtain ⟨hpaths, hcolors⟩ := hpoints 0 _ _ _ .start
  have hended : (sectionDivider.renderProgram.run emptyInput).1 =
      .error (.typeMismatch "text" "text" (some .null)) := by decide +kernel
  have hcolor : (((Expr.var "theme.colors.primary").eval emptyInput
      RunState.initial.scopes 1).run.run 0).1 = .ok (.string "0066CC") := rfl
  refine ⟨?_, hunknown, hpaths "canvas.width" (by decide), ?_, hnames "cols" (by decide +kernel)⟩
  · rw [RenderProgram.execute_eq, hended]
    rfl
  · exact hcolors _ List.mem_cons_self 1 0 _ hcolor

/-- No run of a core component divides by zero, however many items its payload has: wherever a run
comes, whatever the next instruction divides by is above zero. -/
theorem core_never_divides_by_zero (hc : c ∈ core) (input : RunInput) :
    c.renderProgram.execute input ≠ .error .divisionByZero ∧
    ∀ (depth : Nat) (i : Instruction) (rest : List Instruction) (state : RunState),
      c.renderProgram.Reaches input depth (i :: rest) state →
      ∀ (op : ArithOp) (a b : Expr), .arith op a b ∈ Expr.partsOfAll i.ownExprs →
        op = .div ∨ op = .mod → ∀ (depth steps : Nat) (value : Json),
          ((b.eval input state.scopes depth).run.run steps).1 = .ok value →
          ∃ x, value.toFloat? = some x ∧ 0 < x := by
  have hsafe := isSafe_of_mem_core hc
  constructor
  · intro h
    cases isMistake_of_execute hc h
  · intro depth i rest state hreached op a b hpart hop below steps value hvalue
    exact hreached.zero_lt_divisor hsafe hop hpart hvalue

/-- A figure of a dashboard. -/
def revenue : Json := .object [("label", .string "Revenue"), ("value", .string "4")]

/-- A payload with one figure for a dashboard. -/
def oneFigure : RunInput :=
  ⟨.standard, .standard, .object [("title", .string "Quarter"), ("kpis", .array [revenue])]⟩

/-- What a run for one figure has come to in front of the loop over the figures. -/
def beforeFigures : RunState :=
  ((Run.block oneFigure 0 (kpiDashboard.renderProgram.body.take 4)).run.run .initial).2

/-- What it has come to with the figures in hand. -/
def atFigures : RunState :=
  ((Run.firstOperand oneFigure 0 (.var "data.kpis")).run.run beforeFigures).2

/-- What it has come to in the round for the figure. -/
def inFigure : RunState :=
  ((Run.bindAll [("kpi", revenue), ("i", .ofNat 0)]).run.run
    { atFigures with scopes := [] :: atFigures.scopes }).2

/-- A dashboard with one figure comes to the remainder that places it, and divides by one column. -/
theorem core_never_divides_by_zero_dashboard :
    kpiDashboard.renderProgram.execute oneFigure ≠ .error .divisionByZero ∧
      (∃ rest, kpiDashboard.renderProgram.Reaches oneFigure 1
        (.bind "col" (.arith .mod (.var "i") (.var "cols")) :: rest) inFigure) ∧
      (((Expr.var "cols").eval oneFigure inFigure.scopes 3).run.run 0).1 = .ok (.ofFloat 1) ∧
      ∃ x, (Json.ofFloat 1).toFloat? = some x ∧ 0 < x := by
  have hdashboard : kpiDashboard ∈ core := by simp [core]
  obtain ⟨hexecute, hpoints⟩ := core_never_divides_by_zero hdashboard oneFigure
  have hfront : ((Run.block oneFigure 0 (kpiDashboard.renderProgram.body.take 4)).run.run
      .initial).1 = .ok () := by decide +kernel
  have hfigures : ((Run.firstOperand oneFigure 0 (.var "data.kpis")).run.run beforeFigures).1 =
      .ok (.array [revenue]) := by decide +kernel
  have hbound : ((Run.bindAll [("kpi", revenue), ("i", .ofNat 0)]).run.run
      { atFigures with scopes := [] :: atFigures.scopes }).1 = .ok () := by decide +kernel
  have hcolumns : (((Expr.var "cols").eval oneFigure inFigure.scopes 3).run.run 0).1 =
      .ok (.ofFloat 1) := by decide +kernel
  have hstart : kpiDashboard.renderProgram.Reaches oneFigure 0
      (kpiDashboard.renderProgram.body.take 4 ++ kpiDashboard.renderProgram.body.drop 4) .initial :=
    .start
  have heach := hstart.append (Prod.ext hfront rfl)
  have hround := heach.firstRound (Prod.ext hfigures rfl) (by decide) (Prod.ext hbound rfl)
  exact ⟨hexecute, ⟨_, hround⟩, hcolumns,
    hpoints 1 _ _ _ hround .mod _ _ List.mem_cons_self (.inr rfl) 3 0 _ hcolumns⟩

end Library

end SlideDeck
