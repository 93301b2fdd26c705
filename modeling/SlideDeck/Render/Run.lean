import SlideDeck.Render.Eval

/-! # Runs of render programs

A run carries out instructions one after another. It keeps the open scopes, the
number of steps and the operations drawn so far, and all three outlive a failure.
A block opens no scope of its own; the bodies of branches and loops do, and close it
again however they end.
-/

namespace SlideDeck

/-- What a run has come to. -/
structure RunState where
  /-- The open scopes, innermost first. -/
  scopes : List Scope
  steps : Nat
  ops : List DrawOp

/-- The state at the start: one empty scope. -/
def RunState.initial : RunState := ⟨[[]], 0, []⟩

/-- A computation on the state of a run that may fail. -/
abbrev Run (α : Type) := ExceptT ExecutionError (StateM RunState) α

namespace Run

/-- Carries out an evaluation over the open scopes. Only the number of steps
changes. -/
def evaluate (make : List Scope → Eval α) : Run α :=
  ExceptT.mk fun state =>
    let (result, steps) := (make state.scopes).run.run state.steps
    (result, { state with steps := steps })

/-- An outcome that changes nothing. -/
def ofExcept (r : Except ExecutionError α) : Run α := ExceptT.mk (pure r)

/-- A name that a program may bind: neither empty nor dotted, and no input. -/
def isBindable (name : String) : Bool :=
  !name.isEmpty && !name.toList.contains '.' && !inputNames.contains name

/-- Binds a name in the innermost scope. -/
def bind (name : String) (value : Json) : Run Unit := do
  if !isBindable name then throw (.invalidBinding name)
  match (← get).scopes with
  | [] => throw (.tooDeep 0)
  | scope :: outer =>
    modify fun state => { state with scopes := Scope.bind name value scope :: outer }

/-- Binds some names one after another. -/
def bindAll : List (String × Json) → Run Unit
  | [] => return
  | (name, value) :: rest => do
    bind name value
    bindAll rest

/-- Adds an operation to the drawing, if the limits allow it. -/
def emit (limits : ExecutionLimits) (op : DrawOp) : Run Unit := do
  if limits.maxDrawOps ≤ (← get).ops.length then throw (.drawBudget limits.maxDrawOps)
  modify fun state => { state with ops := state.ops ++ [op] }

/-- Carries out a computation in a new scope and closes the scope however it ends. -/
def inScope (bindings : List (String × Json)) (body : Run Unit) : Run Unit :=
  ExceptT.mk fun state =>
    let opened := { state with scopes := [] :: state.scopes }
    let (result, ended) := (bindAll bindings >>= fun _ => body).run.run opened
    (result, { ended with scopes := ended.scopes.tail })

/-- Evaluates an operand of an instruction. -/
def operand (input : RunInput) (depth : Nat) (e : Expr) : Run Json :=
  evaluate fun scopes => e.eval input scopes (depth + 1)

/-- Evaluates an operand that has to be a number. -/
def number (input : RunInput) (depth : Nat) (op : String) (e : Expr) : Run Float := do
  ofExcept (numberOf op (← operand input depth e))

/-- Evaluates a frame. Its extents are not negative. -/
def frame (input : RunInput) (depth : Nat) (f : FrameExpr) : Run Frame := do
  let x ← number input depth "x" f.x
  let y ← number input depth "y" f.y
  let w ← number input depth "w" f.w
  let h ← number input depth "h" f.h
  if w < 0 then throw (.negativeExtent "width")
  if h < 0 then throw (.negativeExtent "height")
  return ⟨x, y, w, h⟩

/-- Evaluates a point. -/
def point (input : RunInput) (depth : Nat) (p : PointExpr) : Run Point := do
  let x ← number input depth "connector" p.x
  let y ← number input depth "connector" p.y
  return ⟨x, y⟩

/-- The colour of a value; null stands for no colour. -/
def colorOf : Json → Except ExecutionError (Option Color)
  | .null => .ok none
  | .string text =>
    match Color.parse? text with
    | some c => .ok (some c)
    | none => .error (.invalidColor text)
  | j => .error (.typeMismatch "color" "string" (some j.kind))

/-- Evaluates a colour; one that is left out is no colour. -/
def color (input : RunInput) (depth : Nat) : Option Expr → Run (Option Color)
  | none => return none
  | some e => do ofExcept (colorOf (← operand input depth e))

/-- Evaluates a width, which counts as zero when it is negative. -/
def width (input : RunInput) (depth : Nat) (op : String) (absent : Float) :
    Option Expr → Run Float
  | none => return absent
  | some e => return Binary64.greatest (← number input depth op e) 0

/-- Draws a text. -/
def text (input : RunInput) (depth : Nat) (t : TextSpec) : Run Unit := do
  let content ← ofExcept (textOf "text" (← operand input depth t.text))
  let frame ← frame input depth t.frame
  let fontSize ← number input depth "fontSize" t.fontSize
  if fontSize ≤ 0 then throw (.negativeExtent "fontSize")
  let color ← color input depth t.color
  emit input.limits <| .text {
    frame := frame
    text := content
    fontFace :=
      match t.face with
      | .heading => input.theme.fonts.heading
      | .body => input.theme.fonts.body
    fontSize := fontSize
    bold := t.bold
    italic := t.italic
    color := color.getD input.theme.colors.text
    align := t.align
    valign := t.valign }

/-- Draws a shape. -/
def shape (input : RunInput) (depth : Nat) (s : ShapeSpec) : Run Unit := do
  let frame ← frame input depth s.frame
  let fill ← color input depth s.fill
  let stroke ← color input depth s.stroke
  let strokeWidth ← width input depth "strokeWidth" 1 s.strokeWidth
  emit input.limits (.shape ⟨s.kind, frame, fill, stroke, strokeWidth⟩)

/-- Draws a connector. -/
def connector (input : RunInput) (depth : Nat) (c : ConnectorSpec) : Run Unit := do
  let source ← point input depth c.source
  let target ← point input depth c.target
  let color ← color input depth c.color
  let width ← width input depth "connector" 1.5 c.width
  emit input.limits <|
    .connector ⟨source, target, color.getD input.theme.colors.text, width, c.head⟩

/-- The items that a loop runs over. -/
def loopItems (limits : ExecutionLimits) : Json → Except ExecutionError (List Json)
  | .array items =>
    if limits.maxLoopItems < items.length then
      .error (.loopLimit items.length limits.maxLoopItems)
    else .ok items
  | j => .error (.typeMismatch "each" "array" (some j.kind))

/-- Runs a body once for each item, with the item and perhaps its index bound. -/
def forEach (binding : String) (index : Option String) (body : Run Unit) :
    Nat → List Json → Run Unit
  | _, [] => return
  | i, item :: rest => do
    inScope ((binding, item) :: index.toList.map fun name => (name, .ofNat i)) body
    forEach binding index body (i + 1) rest

mutual

/-- Carries out one instruction. -/
def instruction (input : RunInput) (depth : Nat) (i : Instruction) : Run Unit := do
  evaluate fun _ => Eval.tick input.limits depth
  match i with
  | .bind name value => bind name (← operand input depth value)
  | .text t => text input depth t
  | .shape s => shape input depth s
  | .connector c => connector input depth c
  | .branch c a b =>
    if (← operand input depth c).truthy then inScope [] (block input (depth + 1) a)
    else inScope [] (block input (depth + 1) b)
  | .each source binding index body =>
    let items ← ofExcept (loopItems input.limits (← operand input depth source))
    forEach binding index (block input (depth + 1) body) 0 items

/-- Carries out instructions one after another. -/
def block (input : RunInput) (depth : Nat) : List Instruction → Run Unit
  | [] => return
  | i :: rest => do
    instruction input depth i
    block input depth rest

end

end Run

namespace RenderProgram

/-- Runs a program from the initial state; the state is the one at the end, also of a
run that fails. -/
def run (p : RenderProgram) (input : RunInput) : Except ExecutionError Unit × RunState :=
  (Run.block input 0 p.body).run.run .initial

/-- The drawing of a program, or why there is none. -/
def execute (p : RenderProgram) (input : RunInput) : Except ExecutionError (List DrawOp) :=
  let (result, state) := p.run input
  result.map fun _ => state.ops

end RenderProgram

end SlideDeck
