import SlideDeck.Drawing.Basic
import SlideDeck.Text.Order

/-! # Render programs

A render program is data: a list of instructions that draw text, shapes and
connectors, with expressions over its three inputs `canvas`, `data` and `theme` and
over its own bindings. Nothing else can be named, so a program reaches nothing else.
-/

namespace SlideDeck

/-- The operations on two numbers. -/
inductive ArithOp
  | add
  | sub
  | mul
  | div
  | mod
deriving DecidableEq, Repr

/-- The operations on one number. -/
inductive UnaryOp
  | neg
  | abs
  | floor
  | ceil
  | sqrt
deriving DecidableEq, Repr

/-- The choice of an extreme of some numbers. -/
inductive ExtremeOp
  | min
  | max
deriving DecidableEq, Repr

/-- The comparisons by order. -/
inductive OrderOp
  | lt
  | le
  | gt
  | ge
deriving DecidableEq, Repr

/-- The connectives of truth values. -/
inductive LogicOp
  | and
  | or
deriving DecidableEq, Repr

/-- An expression of a render program. -/
inductive Expr
  | number (value : Float)
  | bool (value : Bool)
  | string (value : String)
  /-- A dotted path that starts at a binding or an input. -/
  | var (path : String)
  | arith (op : ArithOp) (a b : Expr)
  /-- A quotient, or the third operand when the divisor is zero. -/
  | divOr (a b other : Expr)
  | unary (op : UnaryOp) (a : Expr)
  | extreme (op : ExtremeOp) (xs : List Expr)
  | len (a : Expr)
  | at (a index : Expr)
  | get (a : Expr) (key : String)
  | take (a count : Expr)
  /-- The greatest value of a field among the records of an array. -/
  | maxOf (a : Expr) (field : String)
  | list (xs : List Expr)
  | eq (a b : Expr)
  | ne (a b : Expr)
  | order (op : OrderOp) (a b : Expr)
  | not (a : Expr)
  /-- True unless the operand is null. -/
  | exists (a : Expr)
  | logic (op : LogicOp) (xs : List Expr)
  | cond (c a b : Expr)
  /-- The first operand unless it is null. -/
  | default (a b : Expr)
  | concat (xs : List Expr)
  | str (a : Expr)
  | contains (a b : Expr)
  /-- The operands that are not empty, with a separator between them. -/
  | join (sep : Expr) (xs : List Expr)

/-- The font of the theme that a text is set in. -/
inductive FontRole
  | heading
  | body
deriving DecidableEq, Repr

/-- The four expressions of a frame. -/
structure FrameExpr where
  x : Expr
  y : Expr
  w : Expr
  h : Expr

/-- The two expressions of a point. -/
structure PointExpr where
  x : Expr
  y : Expr

/-- Literals of numbers are expressions. -/
instance : OfNat Expr n := ⟨.number (OfNat.ofNat n)⟩

instance : OfScientific Expr := ⟨fun m s e => .number (OfScientific.ofScientific m s e)⟩

/-- What a text instruction draws. A text without a colour has the one of the theme. -/
structure TextSpec where
  text : Expr
  frame : FrameExpr
  fontSize : Expr := .number 14
  bold : Bool := false
  italic : Bool := false
  face : FontRole := .body
  color : Option Expr := none
  align : HAlign := .left
  valign : VAlign := .top

/-- What a shape instruction draws. -/
structure ShapeSpec where
  kind : ShapeKind
  frame : FrameExpr
  fill : Option Expr := none
  stroke : Option Expr := none
  strokeWidth : Option Expr := none

/-- What a connector instruction draws. A connector without a colour has the one of
the texts of the theme. -/
structure ConnectorSpec where
  source : PointExpr
  target : PointExpr
  head : ArrowHead := .none
  color : Option Expr := none
  width : Option Expr := none

/-- One instruction of a render program. -/
inductive Instruction
  | bind (name : String) (value : Expr)
  | text (spec : TextSpec)
  | shape (spec : ShapeSpec)
  | connector (spec : ConnectorSpec)
  | branch (cond : Expr) (thenBody elseBody : List Instruction)
  /-- Runs the body for every item of an array, with the item and perhaps its
  index bound. -/
  | each (items : Expr) (binding : String) (index : Option String) (body : List Instruction)

/-- A list of instructions. -/
structure RenderProgram where
  body : List Instruction

namespace Expr

/-- The segments of a dotted path; there is always one. -/
def segments (path : String) : List String :=
  (Text.splitOn '.' path.toList).map String.ofList

mutual

/-- The paths that an expression reads, in the order in which they are written. -/
def paths : Expr → List String
  | .number _ | .bool _ | .string _ => []
  | .var path => [path]
  | .arith _ a b | .at a b | .take a b | .eq a b | .ne a b | .order _ a b | .default a b
  | .contains a b => paths a ++ paths b
  | .divOr a b c | .cond a b c => paths a ++ paths b ++ paths c
  | .unary _ a | .len a | .get a _ | .maxOf a _ | .not a | .exists a | .str a => paths a
  | .extreme _ xs | .list xs | .logic _ xs | .concat xs => pathsOfAll xs
  | .join sep xs => paths sep ++ pathsOfAll xs

def pathsOfAll : List Expr → List String
  | [] => []
  | x :: xs => paths x ++ pathsOfAll xs

end

end Expr

/-- The expressions of a frame in the order of evaluation. -/
def FrameExpr.exprs (f : FrameExpr) : List Expr := [f.x, f.y, f.w, f.h]

/-- The expressions of a point in the order of evaluation. -/
def PointExpr.exprs (p : PointExpr) : List Expr := [p.x, p.y]

/-- The expressions of a text instruction. -/
def TextSpec.exprs (t : TextSpec) : List Expr :=
  t.text :: t.frame.exprs ++ t.fontSize :: t.color.toList

/-- The expressions of a shape instruction. -/
def ShapeSpec.exprs (s : ShapeSpec) : List Expr :=
  s.frame.exprs ++ s.fill.toList ++ s.stroke.toList ++ s.strokeWidth.toList

/-- The expressions of a connector instruction. -/
def ConnectorSpec.exprs (c : ConnectorSpec) : List Expr :=
  c.source.exprs ++ c.target.exprs ++ c.color.toList ++ c.width.toList

namespace Instruction

mutual

/-- The expressions of an instruction and of those inside it. -/
def exprs : Instruction → List Expr
  | .bind _ value => [value]
  | .text t => t.exprs
  | .shape s => s.exprs
  | .connector c => c.exprs
  | .branch c a b => c :: (exprsOfAll a ++ exprsOfAll b)
  | .each items _ _ body => items :: exprsOfAll body

def exprsOfAll : List Instruction → List Expr
  | [] => []
  | i :: rest => exprs i ++ exprsOfAll rest

end

end Instruction

namespace RenderProgram

/-- All paths that a program reads. -/
def paths (p : RenderProgram) : List String := Expr.pathsOfAll (Instruction.exprsOfAll p.body)

/-- The member of the data that a path reads. -/
def dataKey? (path : String) : Option String :=
  match Expr.segments path with
  | "data" :: key :: _ => some key
  | _ => none

/-- The members of the data that a program reads, in ascending order. -/
def dataKeys (p : RenderProgram) : List String := Text.sortedSet (p.paths.filterMap dataKey?)

end RenderProgram

end SlideDeck
