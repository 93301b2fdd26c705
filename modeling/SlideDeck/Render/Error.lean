import SlideDeck.Json.Basic

/-! # Limits and failures of a render

Every run of a program is bounded by limits. A failure states its cause; what a
reader sees of it is the message.
-/

namespace SlideDeck

/-- The bounds of one run. -/
structure ExecutionLimits where
  maxSteps : Nat
  maxDrawOps : Nat
  maxLoopItems : Nat
  maxDepth : Nat
  /-- The greatest size of a text or list that a program builds. -/
  maxValueBytes : Nat
deriving DecidableEq, Repr

/-- The bounds that hold where nothing else is said. -/
def ExecutionLimits.standard : ExecutionLimits where
  maxSteps := 20000
  maxDrawOps := 2000
  maxLoopItems := 256
  maxDepth := 48
  maxValueBytes := 1048576

/-- Why a page could not be rendered. -/
inductive ExecutionError
  | unknownVariable (path : String)
  | invalidBinding (name : String)
  /-- An operand of the wrong kind, or no operand at all. -/
  | typeMismatch (op expected : String) (found : Option Json.Kind)
  | divisionByZero
  | nonFinite (op : String)
  | invalidColor (text : String)
  | negativeExtent (extent : String)
  | stepBudget (limit : Nat)
  | drawBudget (limit : Nat)
  | loopLimit (items limit : Nat)
  | tooDeep (limit : Nat)
  | valueBudget (limit : Nat)
  | invalidPayload (summary : String)
  | engineMismatch (required current : String)
  | invalidVersion (text : String)
deriving DecidableEq, Repr

namespace ExecutionError

/-- The message of a failure. -/
def message : ExecutionError → String
  | .unknownVariable path => s!"Unknown variable: {path}"
  | .invalidBinding name => s!"Cannot bind reserved or malformed name: {name}"
  | .typeMismatch op expected found =>
    let kind := found.elim "nothing" Json.Kind.name
    s!"Type error in {op}: expected {expected}, found {kind}"
  | .divisionByZero => "Division by zero"
  | .nonFinite op => s!"Non-finite result in {op}"
  | .invalidColor text => s!"Invalid color: {text}"
  | .negativeExtent extent => s!"Negative {extent} in frame"
  | .stepBudget limit => s!"Step budget of {limit} exceeded"
  | .drawBudget limit => s!"Draw budget of {limit} operations exceeded"
  | .loopLimit items limit => s!"Loop over {items} items exceeds the limit of {limit}"
  | .tooDeep limit => s!"Nesting deeper than {limit}"
  | .valueBudget limit => s!"Value larger than {limit} bytes"
  | .invalidPayload summary => s!"Payload rejected: {summary}"
  | .engineMismatch required current =>
    s!"Component requires engine >= {required}, current is {current}"
  | .invalidVersion text => s!"Invalid engine version requirement: {text}"

/-- The failure comes from a limit and not from the program. -/
def isBudget : ExecutionError → Bool
  | .stepBudget _ | .drawBudget _ | .loopLimit _ _ | .tooDeep _ | .valueBudget _ => true
  | _ => false

end ExecutionError

end SlideDeck
