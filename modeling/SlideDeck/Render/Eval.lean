import SlideDeck.Program.Codec
import SlideDeck.Render.Value
import SlideDeck.Theme.Basic

/-! # Evaluation of expressions

Expressions are evaluated over the open scopes and the three inputs of a run. All
that evaluation leaves behind, whether it succeeds or not, is the number of steps
taken: each expression is one step at its depth of nesting.
-/

namespace SlideDeck

/-- The names of the inputs; no binding may take them. -/
def inputNames : List String := ["canvas", "data", "theme"]

/-- What a run is given. -/
structure RunInput where
  limits : ExecutionLimits
  theme : Theme
  data : Json

/-- The bindings of one block; every name at most once. -/
abbrev Scope := List (String × Json)

namespace Scope

/-- Binds a name, in the place of an earlier value of that name. -/
def bind (name : String) (value : Json) : Scope → Scope
  | [] => [(name, value)]
  | (other, old) :: rest =>
    if other = name then (name, value) :: rest else (other, old) :: bind name value rest

/-- The value of a name in the innermost of the open scopes that binds it. -/
def find? (scopes : List Scope) (name : String) : Option Json :=
  scopes.findSome? fun scope => scope.lookup name

end Scope

namespace RunInput

/-- The value of an input by its name. -/
def root? (input : RunInput) : String → Option Json
  | "canvas" => some Canvas.slide.toJson
  | "data" => some input.data
  | "theme" => some input.theme.programValue
  | _ => none

/-- The value that a path leads to. Bindings come before inputs, and only the first
segment has to be known. -/
def resolve (input : RunInput) (scopes : List Scope) (path : String) :
    Except ExecutionError Json :=
  match Expr.segments path with
  | [] => .error (.unknownVariable path)
  | head :: rest =>
    match Scope.find? scopes head |>.or (input.root? head) with
    | some value => .ok (value.follow rest)
    | none => .error (.unknownVariable path)

end RunInput

/-- A computation that counts steps and may fail. The count outlives a failure. -/
abbrev Eval (α : Type) := ExceptT ExecutionError (StateM Nat) α

namespace Eval

/-- An outcome that takes no step. -/
def ofExcept (r : Except ExecutionError α) : Eval α := ExceptT.mk (pure r)

/-- Takes one step at a depth of nesting, if the limits allow it. -/
def tick (limits : ExecutionLimits) (depth : Nat) : Eval Unit := do
  modify (· + 1)
  let steps ← get
  if limits.maxSteps < steps then throw (.stepBudget limits.maxSteps)
  if limits.maxDepth < depth then throw (.tooDeep limits.maxDepth)

/-- A computation whose value has to be a number. -/
def number (op : String) (value : Eval Json) : Eval Float := do
  ofExcept (numberOf op (← value))

/-- A computation whose value has to have a text. -/
def text (op : String) (value : Eval Json) : Eval String := do
  ofExcept (textOf op (← value))

/-- Carries out evaluations one after another and feeds each value to a step, which
may stop the rest from being carried out. -/
def feed (step : σ → Json → Except ExecutionError (ForInStep σ)) (built : σ) :
    List (Eval Json) → Eval σ
  | [] => return built
  | next :: rest => do
    let value ← next
    match ← ofExcept (step built value) with
    | .yield built => feed step built rest
    | .done built => return built

/-- A size within the limits. -/
def fits (limits : ExecutionLimits) (size : Nat) : Except ExecutionError Unit :=
  if limits.maxValueBytes < size then .error (.valueBudget limits.maxValueBytes) else .ok ()

end Eval

namespace ArithOp

/-- The result of an operation on two numbers. -/
def apply (op : ArithOp) (x y : Float) : Except ExecutionError Float :=
  match op with
  | .add => .ok (x + y)
  | .sub => .ok (x - y)
  | .mul => .ok (x * y)
  | .div => if y == 0 then .error .divisionByZero else .ok (x / y)
  | .mod => if y == 0 then .error .divisionByZero else .ok (Binary64.remainder x y)

end ArithOp

/-- The result of an operation on one number. -/
def UnaryOp.apply : UnaryOp → Float → Float
  | .neg, x => -x
  | .abs, x => x.abs
  | .floor, x => Binary64.floor x
  | .ceil, x => Binary64.ceil x
  | .sqrt, x => x.sqrt

/-- The extreme of two numbers. -/
def ExtremeOp.apply : ExtremeOp → Float → Float → Float
  | .min, x, y => Binary64.least x y
  | .max, x, y => Binary64.greatest x y

/-- The comparison that an order of two values settles. -/
def OrderOp.holds : OrderOp → Ordering → Bool
  | .lt, o => o.isLT
  | .le, o => o.isLE
  | .gt, o => o.isGT
  | .ge, o => o.isGE

/-- The order of two finite numbers. -/
def compareNumbers (x y : Float) : Ordering :=
  if x < y then .lt else if y < x then .gt else .eq

/-- The order of two texts, or of two numbers. -/
def compareValues (a b : Json) : Except ExecutionError Ordering :=
  match a, b with
  | .string s, .string t => .ok (compare s t)
  | _, _ => do return compareNumbers (← numberOf "compare" a) (← numberOf "compare" b)

/-- The number of items, characters or members; null has none. -/
def lengthOf : Json → Except ExecutionError Json
  | .null => .ok (.ofNat 0)
  | .array items => .ok (.ofNat items.length)
  | .string s => .ok (.ofNat s.length)
  | .object members => .ok (.ofNat members.length)
  | j => .error (.typeMismatch "len" "collection" (some j.kind))

/-- The item at an index; null where there is none. -/
def itemAt (items : Json) (index : Float) : Except ExecutionError Json :=
  match items with
  | .array values =>
    if 0 ≤ index && Binary64.isWhole index then
      .ok (values[Binary64.toNat index]?.getD .null)
    else .ok .null
  | .null => .ok .null
  | j => .error (.typeMismatch "at" "array" (some j.kind))

/-- The member of a name; null where there is none. -/
def memberOf (key : String) : Json → Except ExecutionError Json
  | .object members => .ok ((members.lookup key).getD .null)
  | .null => .ok .null
  | j => .error (.typeMismatch "get" "object" (some j.kind))

/-- The first items of an array. -/
def firstItems (items : Json) (count : Float) : Except ExecutionError Json :=
  match items with
  | .array values => .ok (.array (values.take (Binary64.toNat count)))
  | .null => .ok (.array [])
  | j => .error (.typeMismatch "take" "array" (some j.kind))

/-- The greatest number in a field of the records of an array; null without records. -/
def greatestField (field : String) : Json → Except ExecutionError Json
  | .array items => do
    let best ← items.foldlM (fun (best : Option Float) item => do
      let x ← numberOf "max_of" ((item.member? field).getD .null)
      return some (best.elim x fun b => Binary64.greatest b x)) none
    match best with
    | some x => ofResult "max_of" x
    | none => .ok .null
  | j => .error (.typeMismatch "max_of" "array" (some j.kind))

/-- A text occurs in a text, or a value in an array; null contains nothing. -/
def containsValue : Json → Json → Except ExecutionError Bool
  | .string text, .string part => .ok (Text.occursIn part text)
  | .array items, value => .ok (items.any fun item => item.equals value)
  | .null, _ => .ok false
  | j, _ => .error (.typeMismatch "contains" "string or array" (some j.kind))

/-- Takes the next operand of an extreme. -/
def extremeStep (op : ExtremeOp) (best : Option Float) (value : Json) :
    Except ExecutionError (ForInStep (Option Float)) := do
  let x ← numberOf op.name value
  return .yield (some (best.elim x fun b => op.apply b x))

/-- Takes the next operand of a list, as long as the sum of the sizes is within the
limits. -/
def listStep (limits : ExecutionLimits) (built : List Json × Nat) (value : Json) :
    Except ExecutionError (ForInStep (List Json × Nat)) := do
  let size := built.2 + value.cappedSize limits.maxValueBytes
  Eval.fits limits size
  return .yield (built.1 ++ [value], size)

/-- Takes the next operand of a connective and stops where the answer is known. -/
def logicStep (op : LogicOp) (value : Json) : ForInStep Bool :=
  match op, value.truthy with
  | .and, false => .done false
  | .or, true => .done true
  | .and, true => .yield true
  | .or, false => .yield false

/-- Takes the next part of a text, as long as the whole is within the limits. -/
def concatStep (limits : ExecutionLimits) (built : String) (value : Json) :
    Except ExecutionError (ForInStep String) := do
  let part ← textOf "concat" value
  Eval.fits limits (built.utf8ByteSize + part.utf8ByteSize)
  return .yield (built ++ part)

/-- Takes the next part of a joined text. Null and empty parts are left out; every
part counts with a separator. -/
def joinStep (limits : ExecutionLimits) (sep : String) (built : List String × Nat)
    (value : Json) : Except ExecutionError (ForInStep (List String × Nat)) :=
  match value with
  | .null => .ok (.yield built)
  | _ => do
    let part ← textOf "join" value
    if part.isEmpty then return .yield built
    let size := built.2 + (part.utf8ByteSize + sep.utf8ByteSize)
    Eval.fits limits size
    return .yield (built.1 ++ [part], size)

namespace Expr

mutual

/-- Evaluates an expression at a depth of nesting. -/
def eval (input : RunInput) (scopes : List Scope) (depth : Nat) (e : Expr) : Eval Json := do
  Eval.tick input.limits depth
  match e with
  | .number x => .ofExcept (ofResult "literal" x)
  | .bool b => return .bool b
  | .string s => return .string s
  | .var path => .ofExcept (input.resolve scopes path)
  | .arith op a b =>
    let x ← Eval.number op.name (eval input scopes (depth + 2) a)
    let y ← Eval.number op.name (eval input scopes (depth + 2) b)
    .ofExcept ((op.apply x y).bind (ofResult op.name))
  | .divOr a b other =>
    let x ← Eval.number "div_or" (eval input scopes (depth + 2) a)
    let y ← Eval.number "div_or" (eval input scopes (depth + 2) b)
    if y == 0 then eval input scopes (depth + 1) other
    else .ofExcept (ofResult "div_or" (x / y))
  | .unary op a =>
    let x ← Eval.number op.name (eval input scopes (depth + 2) a)
    .ofExcept (ofResult op.name (op.apply x))
  | .extreme op xs =>
    match ← Eval.feed (extremeStep op) none
      (evaluations input scopes (depth + 2) xs) with
    | some x => .ofExcept (ofResult op.name x)
    | none => throw (.typeMismatch op.name "at least one number" none)
  | .len a => .ofExcept (lengthOf (← eval input scopes (depth + 1) a))
  | .at a i =>
    let items ← eval input scopes (depth + 1) a
    let index ← Eval.number "at" (eval input scopes (depth + 2) i)
    .ofExcept (itemAt items index)
  | .get a key => .ofExcept (memberOf key (← eval input scopes (depth + 1) a))
  | .take a n =>
    let items ← eval input scopes (depth + 1) a
    let count ← Eval.number "take" (eval input scopes (depth + 2) n)
    .ofExcept (firstItems items count)
  | .maxOf a field => .ofExcept (greatestField field (← eval input scopes (depth + 1) a))
  | .list xs =>
    let built ← Eval.feed (listStep input.limits) ([], 0)
      (evaluations input scopes (depth + 1) xs)
    return .array built.1
  | .eq a b =>
    let x ← eval input scopes (depth + 1) a
    let y ← eval input scopes (depth + 1) b
    return .bool (x.equals y)
  | .ne a b =>
    let x ← eval input scopes (depth + 1) a
    let y ← eval input scopes (depth + 1) b
    return .bool !(x.equals y)
  | .order op a b =>
    let x ← eval input scopes (depth + 1) a
    let y ← eval input scopes (depth + 1) b
    return .bool (op.holds (← Eval.ofExcept (compareValues x y)))
  | .not a => return .bool !(← eval input scopes (depth + 1) a).truthy
  | .exists a =>
    match ← eval input scopes (depth + 1) a with
    | .null => return .bool false
    | _ => return .bool true
  | .logic op xs =>
    let start := match op with
      | .and => true
      | .or => false
    return .bool (← Eval.feed (fun _ v => .ok (logicStep op v)) start
      (evaluations input scopes (depth + 1) xs))
  | .cond c a b =>
    if (← eval input scopes (depth + 1) c).truthy then eval input scopes (depth + 1) a
    else eval input scopes (depth + 1) b
  | .default a b =>
    match ← eval input scopes (depth + 1) a with
    | .null => eval input scopes (depth + 1) b
    | v => return v
  | .concat xs =>
    return .string (← Eval.feed (concatStep input.limits) ""
      (evaluations input scopes (depth + 1) xs))
  | .str a =>
    let text ← Eval.text "str" (eval input scopes (depth + 1) a)
    Eval.ofExcept (Eval.fits input.limits text.utf8ByteSize)
    return .string text
  | .contains a b =>
    let x ← eval input scopes (depth + 1) a
    let y ← eval input scopes (depth + 1) b
    return .bool (← Eval.ofExcept (containsValue x y))
  | .join sep xs =>
    let sep ← Eval.text "join" (eval input scopes (depth + 1) sep)
    let built ← Eval.feed (joinStep input.limits sep) ([], 0)
      (evaluations input scopes (depth + 1) xs)
    return .string (sep.intercalate built.1)

/-- The evaluations of operands, none of them carried out yet. -/
def evaluations (input : RunInput) (scopes : List Scope) (depth : Nat) :
    List Expr → List (Eval Json)
  | [] => []
  | x :: xs => eval input scopes depth x :: evaluations input scopes depth xs

end

end Expr

end SlideDeck
