import SlideDeck.Drawing.Codec
import SlideDeck.Program.Basic

/-! # JSON forms of render programs

A literal of an expression is a JSON literal, a call an object with one member: the
name of the operation and its operands. Instructions have their kind in `op`. What
an instruction leaves out has a default, and all members are written.
-/

namespace SlideDeck

open Json (Decoder)

namespace ArithOp

/-- The name of an operation. -/
def name : ArithOp → String
  | .add => "add"
  | .sub => "sub"
  | .mul => "mul"
  | .div => "div"
  | .mod => "mod"

/-- The operation of a name. -/
def ofName? : String → Option ArithOp
  | "add" => some .add
  | "sub" => some .sub
  | "mul" => some .mul
  | "div" => some .div
  | "mod" => some .mod
  | _ => none

end ArithOp

namespace UnaryOp

/-- The name of an operation. -/
def name : UnaryOp → String
  | .neg => "neg"
  | .abs => "abs"
  | .floor => "floor"
  | .ceil => "ceil"
  | .sqrt => "sqrt"

/-- The operation of a name. -/
def ofName? : String → Option UnaryOp
  | "neg" => some .neg
  | "abs" => some .abs
  | "floor" => some .floor
  | "ceil" => some .ceil
  | "sqrt" => some .sqrt
  | _ => none

end UnaryOp

namespace ExtremeOp

/-- The name of an operation. -/
def name : ExtremeOp → String
  | .min => "min"
  | .max => "max"

/-- The operation of a name. -/
def ofName? : String → Option ExtremeOp
  | "min" => some .min
  | "max" => some .max
  | _ => none

end ExtremeOp

namespace OrderOp

/-- The name of an operation. -/
def name : OrderOp → String
  | .lt => "lt"
  | .le => "le"
  | .gt => "gt"
  | .ge => "ge"

/-- The operation of a name. -/
def ofName? : String → Option OrderOp
  | "lt" => some .lt
  | "le" => some .le
  | "gt" => some .gt
  | "ge" => some .ge
  | _ => none

end OrderOp

namespace LogicOp

/-- The name of an operation. -/
def name : LogicOp → String
  | .and => "and"
  | .or => "or"

/-- The operation of a name. -/
def ofName? : String → Option LogicOp
  | "and" => some .and
  | "or" => some .or
  | _ => none

end LogicOp

namespace Expr

/-- A call of an operation. -/
def call (name : String) (operands : Json) : Json := .object [(name, operands)]

mutual

/-- The JSON form of an expression. -/
def toJson : Expr → Json
  | .number x => Json.ofFloat x
  | .bool b => .bool b
  | .string s => .string s
  | .var path => call "var" (.string path)
  | .arith op a b => call op.name (.array [toJson a, toJson b])
  | .divOr a b c => call "div_or" (.array [toJson a, toJson b, toJson c])
  | .unary op a => call op.name (toJson a)
  | .extreme op xs => call op.name (.array (toJsonAll xs))
  | .len a => call "len" (toJson a)
  | .at a i => call "at" (.array [toJson a, toJson i])
  | .get a key => call "get" (.array [toJson a, .string key])
  | .take a n => call "take" (.array [toJson a, toJson n])
  | .maxOf a field => call "max_of" (.array [toJson a, .string field])
  | .list xs => call "list" (.array (toJsonAll xs))
  | .eq a b => call "eq" (.array [toJson a, toJson b])
  | .ne a b => call "ne" (.array [toJson a, toJson b])
  | .order op a b => call op.name (.array [toJson a, toJson b])
  | .not a => call "not" (toJson a)
  | .exists a => call "exists" (toJson a)
  | .logic op xs => call op.name (.array (toJsonAll xs))
  | .cond c a b => call "cond" (.array [toJson c, toJson a, toJson b])
  | .default a b => call "default" (.array [toJson a, toJson b])
  | .concat xs => call "concat" (.array (toJsonAll xs))
  | .str a => call "str" (toJson a)
  | .contains a b => call "contains" (.array [toJson a, toJson b])
  | .join sep xs => call "join" (.array [toJson sep, .array (toJsonAll xs)])

def toJsonAll : List Expr → List Json
  | [] => []
  | x :: xs => toJson x :: toJsonAll xs

end

/-- Decodes a call by the name of its operation, with a decoder for the operands
that are expressions. -/
def decodeCall (expr : Decoder Expr) (name : String) (operands : Json.Draft) : Option Expr :=
  let pair (make : Expr → Expr → Expr) : Option Expr :=
    match operands with
    | .array [a, b] => do return make (← expr a) (← expr b)
    | _ => none
  let triple (make : Expr → Expr → Expr → Expr) : Option Expr :=
    match operands with
    | .array [a, b, c] => do return make (← expr a) (← expr b) (← expr c)
    | _ => none
  let keyed (make : Expr → String → Expr) : Option Expr :=
    match operands with
    | .array [a, .string key] => do return make (← expr a) key
    | _ => none
  let all (make : List Expr → Expr) : Option Expr := (Decoder.list expr operands).map make
  let one (make : Expr → Expr) : Option Expr := (expr operands).map make
  match name with
  | "var" => (Decoder.string operands).map .var
  | "div_or" => triple .divOr
  | "len" => one .len
  | "at" => pair .at
  | "get" => keyed .get
  | "take" => pair .take
  | "max_of" => keyed .maxOf
  | "list" => all .list
  | "eq" => pair .eq
  | "ne" => pair .ne
  | "not" => one .not
  | "exists" => one .exists
  | "cond" => triple .cond
  | "default" => pair .default
  | "concat" => all .concat
  | "str" => one .str
  | "contains" => pair .contains
  | "join" =>
    match operands with
    | .array [sep, xs] => do return .join (← expr sep) (← Decoder.list expr xs)
    | _ => none
  | _ =>
    match ArithOp.ofName? name, UnaryOp.ofName? name, ExtremeOp.ofName? name,
      OrderOp.ofName? name, LogicOp.ofName? name with
    | some op, _, _, _, _ => pair (.arith op)
    | _, some op, _, _, _ => one (.unary op)
    | _, _, some op, _, _ => all (.extreme op)
    | _, _, _, some op, _ => pair (.order op)
    | _, _, _, _, some op => all (.logic op)
    | none, none, none, none, none => none

/-- Decodes an expression that nests at most `depth` calls. -/
def decodeNested : (depth : Nat) → Decoder Expr
  | _, .number n => some (.number n.toFloat)
  | _, .bool b => some (.bool b)
  | _, .string s => some (.string s)
  | depth + 1, .object [(name, operands)] => decodeCall (decodeNested depth) name operands
  | _, _ => none

/-- Decodes an expression. -/
def decode : Decoder Expr := fun d => decodeNested d.nesting d

end Expr

namespace FontRole

/-- The name of a font of the theme. -/
def name : FontRole → String
  | .heading => "heading"
  | .body => "body"

/-- The font of the theme of a name. -/
def ofName? : String → Option FontRole
  | "heading" => some .heading
  | "body" => some .body
  | _ => none

end FontRole

/-- The members of a frame. -/
def FrameExpr.members (f : FrameExpr) : List (String × Json) :=
  [("x", f.x.toJson), ("y", f.y.toJson), ("w", f.w.toJson), ("h", f.h.toJson)]

/-- Decodes the frame among the members of an instruction. -/
def FrameExpr.ofRecord (r : Json.Record) : Option FrameExpr := do
  return {
    x := ← r.required "x" Expr.decode
    y := ← r.required "y" Expr.decode
    w := ← r.required "w" Expr.decode
    h := ← r.required "h" Expr.decode }

/-- The JSON form of a point. -/
def PointExpr.toJson (p : PointExpr) : Json := .array [p.x.toJson, p.y.toJson]

/-- Decodes a point. -/
def PointExpr.decode : Decoder PointExpr
  | .array [x, y] => do return ⟨← Expr.decode x, ← Expr.decode y⟩
  | _ => none

/-- The members of a text instruction. -/
def TextSpec.members (t : TextSpec) : List (String × Json) :=
  ("text", t.text.toJson) :: t.frame.members ++ [
    ("fontSize", t.fontSize.toJson), ("bold", .bool t.bold), ("italic", .bool t.italic),
    ("face", .string t.face.name), ("color", Json.ofOption t.color Expr.toJson),
    ("align", .string t.align.name), ("valign", .string t.valign.name)]

/-- Decodes a text instruction. -/
def TextSpec.decode : Decoder TextSpec := fun d => do
  let r ← d.record? ["text", "x", "y", "w", "h", "fontSize", "bold", "italic", "face",
    "color", "align", "valign"]
  return {
    text := ← r.required "text" Expr.decode
    frame := ← FrameExpr.ofRecord r
    fontSize := ← r.optional "fontSize" (.number 14) Expr.decode
    bold := ← r.optional "bold" false Decoder.bool
    italic := ← r.optional "italic" false Decoder.bool
    face := ← r.optional "face" .body (Decoder.looseName FontRole.ofName?)
    color := ← r.nullable "color" Expr.decode
    align := ← r.optional "align" .left (Decoder.looseName HAlign.ofName?)
    valign := ← r.optional "valign" .top (Decoder.looseName VAlign.ofName?) }

/-- The members of a shape instruction. -/
def ShapeSpec.members (s : ShapeSpec) : List (String × Json) :=
  ("shape", .string s.kind.name) :: s.frame.members ++ [
    ("fill", Json.ofOption s.fill Expr.toJson), ("stroke", Json.ofOption s.stroke Expr.toJson),
    ("strokeWidth", Json.ofOption s.strokeWidth Expr.toJson)]

/-- Decodes a shape instruction. -/
def ShapeSpec.decode : Decoder ShapeSpec := fun d => do
  let r ← d.record? ["shape", "x", "y", "w", "h", "fill", "stroke", "strokeWidth"]
  return {
    kind := ← r.required "shape" (Decoder.looseName ShapeKind.ofName?)
    frame := ← FrameExpr.ofRecord r
    fill := ← r.nullable "fill" Expr.decode
    stroke := ← r.nullable "stroke" Expr.decode
    strokeWidth := ← r.nullable "strokeWidth" Expr.decode }

/-- The members of a connector instruction. -/
def ConnectorSpec.members (c : ConnectorSpec) : List (String × Json) := [
  ("from", c.source.toJson), ("to", c.target.toJson), ("head", .string c.head.name),
  ("color", Json.ofOption c.color Expr.toJson), ("width", Json.ofOption c.width Expr.toJson)]

/-- Decodes a connector instruction. -/
def ConnectorSpec.decode : Decoder ConnectorSpec := fun d => do
  let r ← d.record? ["from", "to", "head", "color", "width"]
  return {
    source := ← r.required "from" PointExpr.decode
    target := ← r.required "to" PointExpr.decode
    head := ← r.optional "head" .none (Decoder.looseName ArrowHead.ofName?)
    color := ← r.nullable "color" Expr.decode
    width := ← r.nullable "width" Expr.decode }

/-- The kinds of instructions. -/
inductive InstructionKind
  | bind
  | text
  | shape
  | connector
  | branch
  | each
deriving DecidableEq, Repr

namespace InstructionKind

/-- All kinds in the order of their numbers. -/
def all : List InstructionKind := [.bind, .text, .shape, .connector, .branch, .each]

/-- The name of a kind. -/
def name : InstructionKind → String
  | .bind => "let"
  | .text => "text"
  | .shape => "shape"
  | .connector => "connector"
  | .branch => "if"
  | .each => "each"

/-- The member that says the kind of an instruction. -/
def member (kind : InstructionKind) : String × Json := ("op", .string kind.name)

/-- The kind of a name. -/
def ofName? (name : String) : Option InstructionKind := all.find? fun k => k.name == name

/-- Decodes the name of a kind. -/
def decode : Decoder InstructionKind := fun d => (Decoder.string d).bind ofName?

/-- Decodes a kind inside a block, where it also goes by its number. -/
def decodeInBlock : Decoder InstructionKind := fun d =>
  match Decoder.nat d with
  | some n => all[n]?
  | none => decode d

end InstructionKind

namespace Instruction

mutual

/-- The JSON form of an instruction. -/
def toJson : Instruction → Json
  | .bind name value =>
    Json.ofMembers [InstructionKind.bind.member, ("name", .string name),
      ("value", value.toJson)]
  | .text t => Json.ofMembers (InstructionKind.text.member :: t.members)
  | .shape s => Json.ofMembers (InstructionKind.shape.member :: s.members)
  | .connector c => Json.ofMembers (InstructionKind.connector.member :: c.members)
  | .branch c a b =>
    Json.ofMembers [InstructionKind.branch.member, ("cond", c.toJson),
      ("then", .array (toJsonAll a)), ("else", .array (toJsonAll b))]
  | .each items binding index body =>
    Json.ofMembers [InstructionKind.each.member, ("over", items.toJson),
      ("as", .string binding), ("index", Json.ofOption index .string),
      ("body", .array (toJsonAll body))]

def toJsonAll : List Instruction → List Json
  | [] => []
  | i :: rest => toJson i :: toJsonAll rest

end

/-- Decodes an instruction of a kind that nests at most `depth` blocks. -/
def decodeNested : (depth : Nat) → (kind : Decoder InstructionKind) → Decoder Instruction
  | 0, _, _ => none
  | depth + 1, kind, d => do
    let block := Decoder.list (decodeNested depth InstructionKind.decodeInBlock)
    let tagged ← d.tagged? "op"
    match ← kind tagged.tag with
    | .bind =>
      let r ← tagged.content.record? ["name", "value"]
      return .bind (← r.required "name" Decoder.string) (← r.required "value" Expr.decode)
    | .text => (TextSpec.decode tagged.content).map .text
    | .shape => (ShapeSpec.decode tagged.content).map .shape
    | .connector => (ConnectorSpec.decode tagged.content).map .connector
    | .branch =>
      let r ← tagged.content.record? ["cond", "then", "else"]
      return .branch (← r.required "cond" Expr.decode) (← r.optional "then" [] block)
        (← r.optional "else" [] block)
    | .each =>
      let r ← tagged.content.record? ["over", "as", "index", "body"]
      return .each (← r.required "over" Expr.decode) (← r.required "as" Decoder.string)
        (← r.nullable "index" Decoder.string) (← r.required "body" block)

/-- Decodes an instruction; unknown members of it have to be readable, too. -/
def decode : Decoder Instruction :=
  Decoder.whole fun d => decodeNested d.nesting InstructionKind.decode d

end Instruction

namespace RenderProgram

/-- The JSON form of a program. -/
def toJson (p : RenderProgram) : Json :=
  Json.ofMembers [("body", .array (Instruction.toJsonAll p.body))]

/-- Decodes a program; one without a body draws nothing. -/
def decode : Decoder RenderProgram := fun d => do
  let r ← d.record? ["body"]
  return ⟨← r.optional "body" [] (Decoder.list Instruction.decode)⟩

end RenderProgram

end SlideDeck
