import SlideDeck.Proofs.Render.Plan.Basic

/-!
# Plans of expressions

Evaluating an expression is a step and then its plan, with the operands evaluated in the same
way. This is all there is to say about the recursion of the evaluator; what the operations do
with finished values is in the plan.
-/

namespace SlideDeck

@[simp]
theorem Eval.ofExcept_eq {α : Type} (outcome : Except ExecutionError α) :
    Eval.ofExcept outcome = ExceptT.mk (pure outcome) := rfl

/-- The plan of an expression. -/
def Expr.plan (input : RunInput) (scopes : List Scope) : Expr → Plan Json
  | .number x => .done (ofResult "literal" x)
  | .bool b => return .bool b
  | .string s => return .string s
  | .var path => .done (input.resolve scopes path)
  | .arith op a b => do
    let x ← Plan.number 1 op.name a
    let y ← Plan.number 1 op.name b
    .done ((op.apply x y).bind (ofResult op.name))
  | .divOr a b other => do
    let x ← Plan.number 1 "div_or" a
    let y ← Plan.number 1 "div_or" b
    if y == 0 then Plan.value 0 other else .done (ofResult "div_or" (x / y))
  | .unary op a => do
    let x ← Plan.number 1 op.name a
    .done (ofResult op.name (op.apply x))
  | .extreme op xs => do
    match ← Plan.feed 1 (extremeStep op) none xs with
    | some x => .done (ofResult op.name x)
    | none => .done (.error (.typeMismatch op.name "at least one number" none))
  | .len a => do .done (lengthOf (← Plan.value 0 a))
  | .at a i => do
    let items ← Plan.value 0 a
    let index ← Plan.number 1 "at" i
    .done (itemAt items index)
  | .get a key => do .done (memberOf key (← Plan.value 0 a))
  | .take a n => do
    let items ← Plan.value 0 a
    let count ← Plan.number 1 "take" n
    .done (firstItems items count)
  | .maxOf a field => do .done (greatestField field (← Plan.value 0 a))
  | .list xs => do
    let built ← Plan.feed 0 (listStep input.limits) ([], 0) xs
    return .array built.1
  | .eq a b => do
    let x ← Plan.value 0 a
    let y ← Plan.value 0 b
    return .bool (x.equals y)
  | .ne a b => do
    let x ← Plan.value 0 a
    let y ← Plan.value 0 b
    return .bool !(x.equals y)
  | .order op a b => do
    let x ← Plan.value 0 a
    let y ← Plan.value 0 b
    return .bool (op.holds (← Plan.done (compareValues x y)))
  | .not a => do return .bool !(← Plan.value 0 a).truthy
  | .exists a => do
    match ← Plan.value 0 a with
    | .null => return .bool false
    | _ => return .bool true
  | .logic op xs => do
    let start := match op with
      | .and => true
      | .or => false
    return .bool (← Plan.feed 0 (fun _ v => .ok (logicStep op v)) start xs)
  | .cond c a b => do if (← Plan.value 0 c).truthy then Plan.value 0 a else Plan.value 0 b
  | .default a b => do
    match ← Plan.value 0 a with
    | .null => Plan.value 0 b
    | v => return v
  | .concat xs => do return .string (← Plan.feed 0 (concatStep input.limits) "" xs)
  | .str a => do
    let text ← Plan.text "str" a
    Plan.done (Eval.fits input.limits text.utf8ByteSize)
    return .string text
  | .contains a b => do
    let x ← Plan.value 0 a
    let y ← Plan.value 0 b
    return .bool (← Plan.done (containsValue x y))
  | .join sep xs => do
    let sep ← Plan.text "join" sep
    let built ← Plan.feed 0 (joinStep input.limits sep) ([], 0) xs
    return .string (sep.intercalate built.1)

namespace Expr

theorem feed_evaluations {σ : Type} (input : RunInput) (scopes : List Scope) (depth below : Nat)
    (step : σ → Json → Except ExecutionError (ForInStep σ)) (built : σ) (xs : List Expr) :
    Eval.feed step built (evaluations input scopes (depth + (below + 1)) xs) =
      (Plan.feed below step built xs).carryOut fun below e =>
        e.eval input scopes (depth + (below + 1)) := by
  induction xs generalizing built with
  | nil => rfl
  | cons x rest ih =>
      simp only [evaluations, Eval.feed, Plan.feed, Plan.carryOut_bind, Plan.carryOut_value,
        Plan.carryOut_done]
      refine bind_congr fun value => bind_congr fun next => ?_
      cases next with
      | yield built => exact ih built
      | done built => rfl

/-- Evaluating an expression is a step and then its plan. -/
theorem eval_eq (input : RunInput) (scopes : List Scope) (depth : Nat) (e : Expr) :
    e.eval input scopes depth = Eval.tick input.limits depth >>= fun _ =>
      (e.plan input scopes).carryOut fun below operand =>
        operand.eval input scopes (depth + (below + 1)) := by
  conv => lhs; unfold eval
  refine bind_congr fun _ => ?_
  cases e with
  | number _ | bool _ | string _ | var _ => rfl
  | arith op a b | unary op a | «at» a i | take a i => simp [plan, Eval.number, Plan.number]
  | len a | get a _ | maxOf a _ | not a => simp [plan]
  | eq a b | ne a b | order op a b | contains a b => simp [plan]
  | divOr a b other =>
      simp only [plan, Eval.number, Plan.number, bind_assoc, Plan.carryOut_bind,
        Plan.carryOut_value, Plan.carryOut_done]
      refine bind_congr fun _ => bind_congr fun x => bind_congr fun _ => bind_congr fun y => ?_
      split
      · exact (Plan.carryOut_value ..).symm
      · rfl
  | extreme op xs =>
      simp only [plan, Plan.carryOut_bind]
      rw [feed_evaluations input scopes depth 1]
      refine bind_congr fun best => ?_
      cases best <;> rfl
  | «exists» a =>
      simp only [plan, Plan.carryOut_bind, Plan.carryOut_value]
      refine bind_congr fun value => ?_
      cases value <;> rfl
  | cond c a b =>
      simp only [plan, Plan.carryOut_bind, Plan.carryOut_value]
      refine bind_congr fun value => ?_
      split
      · exact (Plan.carryOut_value ..).symm
      · exact (Plan.carryOut_value ..).symm
  | default a b =>
      simp only [plan, Plan.carryOut_bind, Plan.carryOut_value]
      refine bind_congr fun value => ?_
      cases value with
      | null => exact (Plan.carryOut_value ..).symm
      | bool _ | number _ | string _ | array _ | object _ => rfl
  | list xs | concat xs => simp [plan, feed_evaluations input scopes depth 0]
  | logic op xs =>
      simp only [plan, Plan.carryOut_bind]
      rw [feed_evaluations input scopes depth 0]
      rfl
  | str a => simp [plan, Eval.text, Plan.text]
  | join sep xs => simp [plan, Eval.text, Plan.text, feed_evaluations input scopes depth 0]

end Expr

end SlideDeck
