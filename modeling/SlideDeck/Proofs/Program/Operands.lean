import Mathlib.Data.Nat.Notation
import SlideDeck.Program.Basic

/-!
# Operands and inner instructions

What holds of an expression as soon as it holds of its operands holds of every expression, and
what holds of an instruction as soon as it holds of those in its bodies holds of every
instruction. The literals of an expression are gathered along the same lines.
-/

namespace SlideDeck

/-! ## Expressions -/

namespace Expr

/-- The expressions that an expression is made of. -/
def operands : Expr → List Expr
  | .number _ | .bool _ | .string _ | .var _ => []
  | .arith _ a b | .at a b | .take a b | .eq a b | .ne a b | .order _ a b | .default a b
  | .contains a b => [a, b]
  | .divOr a b c | .cond a b c => [a, b, c]
  | .unary _ a | .len a | .get a _ | .maxOf a _ | .not a | .exists a | .str a => [a]
  | .extreme _ xs | .list xs | .logic _ xs | .concat xs => xs
  | .join sep xs => sep :: xs

theorem sizeOf_lt_of_mem_operands {a e : Expr} (h : a ∈ e.operands) : sizeOf a < sizeOf e := by
  cases e with
  | number _ | bool _ | string _ | var _ => cases h
  | arith _ _ _ | «at» _ _ | take _ _ | eq _ _ | ne _ _ | order _ _ _ | default _ _
  | contains _ _ | divOr _ _ _ | cond _ _ _ =>
      simp only [operands, List.mem_cons, List.not_mem_nil, or_false] at h
      rcases h with rfl | rfl | rfl <;> simp <;> omega
  | unary _ _ | len _ | get _ _ | maxOf _ _ | not _ | «exists» _ | str _ =>
      obtain rfl := List.mem_singleton.mp h
      simp only [unary.sizeOf_spec, len.sizeOf_spec, get.sizeOf_spec, maxOf.sizeOf_spec,
        not.sizeOf_spec, exists.sizeOf_spec, str.sizeOf_spec]
      omega
  | extreme _ xs | list xs | logic _ xs | concat xs =>
      have hless := List.sizeOf_lt_of_mem (show a ∈ xs from h)
      simp only [extreme.sizeOf_spec, list.sizeOf_spec, logic.sizeOf_spec, concat.sizeOf_spec]
      omega
  | join sep xs =>
      rw [join.sizeOf_spec]
      rcases List.mem_cons.mp h with rfl | h
      · omega
      · have hless := List.sizeOf_lt_of_mem h
        omega

/-- Induction over the operands of expressions. -/
theorem operandInduction {motive : Expr → Prop}
    (step : ∀ e, (∀ a ∈ e.operands, motive a) → motive e) (e : Expr) : motive e :=
  step e fun a _ => operandInduction step a
termination_by sizeOf e
decreasing_by exact sizeOf_lt_of_mem_operands ‹_›

mutual

/-- The numbers that are written in an expression. -/
def literals : Expr → List Float
  | .number x => [x]
  | .bool _ | .string _ | .var _ => []
  | .arith _ a b | .at a b | .take a b | .eq a b | .ne a b | .order _ a b | .default a b
  | .contains a b => literals a ++ literals b
  | .divOr a b c | .cond a b c => literals a ++ literals b ++ literals c
  | .unary _ a | .len a | .get a _ | .maxOf a _ | .not a | .exists a | .str a => literals a
  | .extreme _ xs | .list xs | .logic _ xs | .concat xs => literalsOfAll xs
  | .join sep xs => literals sep ++ literalsOfAll xs

def literalsOfAll : List Expr → List Float
  | [] => []
  | x :: xs => literals x ++ literalsOfAll xs

end

theorem mem_literalsOfAll {xs : List Expr} {x : Float} :
    x ∈ literalsOfAll xs ↔ ∃ e ∈ xs, x ∈ e.literals := by
  induction xs with
  | nil => simp [literalsOfAll]
  | cons e rest ih => simp [literalsOfAll, ih]

/-- A number is written in an expression when it is the expression or written in an operand. -/
theorem mem_literals_iff {e : Expr} {x : Float} :
    x ∈ e.literals ↔ e = .number x ∨ ∃ a ∈ e.operands, x ∈ a.literals := by
  cases e <;> simp [literals, operands, mem_literalsOfAll, eq_comm]

/-- All numbers that are written in an expression are finite. -/
def HasFiniteLiterals (e : Expr) : Prop := ∀ x ∈ e.literals, x.isFinite = true

variable {e : Expr}

theorem hasFiniteLiterals_iff :
    e.HasFiniteLiterals ↔
      (∀ x, e = .number x → x.isFinite = true) ∧ ∀ a ∈ e.operands, a.HasFiniteLiterals := by
  constructor
  · intro h
    exact ⟨fun x hx => h x (mem_literals_iff.mpr (.inl hx)),
      fun a ha x hx => h x (mem_literals_iff.mpr (.inr ⟨a, ha, hx⟩))⟩
  · rintro ⟨hself, hoperands⟩ x hx
    obtain heq | ⟨a, ha, hmem⟩ := mem_literals_iff.mp hx
    · exact hself x heq
    · exact hoperands a ha x hmem

mutual

/-- An expression and all expressions inside it. -/
def parts (e : Expr) : List Expr :=
  e :: match e with
  | .number _ | .bool _ | .string _ | .var _ => []
  | .arith _ a b | .at a b | .take a b | .eq a b | .ne a b | .order _ a b | .default a b
  | .contains a b => parts a ++ parts b
  | .divOr a b c | .cond a b c => parts a ++ parts b ++ parts c
  | .unary _ a | .len a | .get a _ | .maxOf a _ | .not a | .exists a | .str a => parts a
  | .extreme _ xs | .list xs | .logic _ xs | .concat xs => partsOfAll xs
  | .join sep xs => parts sep ++ partsOfAll xs

def partsOfAll : List Expr → List Expr
  | [] => []
  | x :: xs => parts x ++ partsOfAll xs

end

theorem mem_partsOfAll {xs : List Expr} : e ∈ partsOfAll xs ↔ ∃ x ∈ xs, e ∈ x.parts := by
  induction xs with
  | nil => simp [partsOfAll]
  | cons x rest ih => simp [partsOfAll, ih]

/-- The parts of an expression are itself and those of its operands. -/
theorem mem_parts_iff {a : Expr} : a ∈ e.parts ↔ a = e ∨ ∃ x ∈ e.operands, a ∈ x.parts := by
  cases e <;> simp [parts, operands, mem_partsOfAll]

end Expr

/-! ## Instructions -/

namespace Instruction

/-- The expressions of an instruction itself. -/
def ownExprs : Instruction → List Expr
  | .bind _ value => [value]
  | .text t => t.exprs
  | .shape s => s.exprs
  | .connector c => c.exprs
  | .branch c _ _ => [c]
  | .each items _ _ _ => [items]

/-- The instructions in the bodies of an instruction. -/
def inner : Instruction → List Instruction
  | .bind _ _ | .text _ | .shape _ | .connector _ => []
  | .branch _ a b => a ++ b
  | .each _ _ _ body => body

theorem sizeOf_lt_of_mem_inner {i j : Instruction} (h : j ∈ i.inner) : sizeOf j < sizeOf i := by
  cases i with
  | bind _ _ | text _ | shape _ | connector _ => cases h
  | branch c a b =>
      rw [branch.sizeOf_spec]
      rcases List.mem_append.mp h with h | h
      all_goals
        have hless := List.sizeOf_lt_of_mem h
        omega
  | each _ _ _ body =>
      have hless := List.sizeOf_lt_of_mem (show j ∈ body from h)
      rw [each.sizeOf_spec]
      omega

/-- Induction over the bodies of instructions. -/
theorem innerInduction {motive : Instruction → Prop}
    (step : ∀ i, (∀ j ∈ i.inner, motive j) → motive i) (i : Instruction) : motive i :=
  step i fun j _ => innerInduction step j
termination_by sizeOf i
decreasing_by exact sizeOf_lt_of_mem_inner ‹_›

theorem mem_exprsOfAll {body : List Instruction} {e : Expr} :
    e ∈ exprsOfAll body ↔ ∃ i ∈ body, e ∈ i.exprs := by
  induction body with
  | nil => simp [exprsOfAll]
  | cons i rest ih => simp [exprsOfAll, ih]

theorem mem_exprs_iff {i : Instruction} {e : Expr} :
    e ∈ i.exprs ↔ e ∈ i.ownExprs ∨ ∃ j ∈ i.inner, e ∈ j.exprs := by
  cases i <;> simp [exprs, ownExprs, inner, mem_exprsOfAll, or_and_right, exists_or]

mutual

/-- An instruction and all instructions in its bodies. -/
def parts (i : Instruction) : List Instruction :=
  i :: match i with
  | .bind _ _ | .text _ | .shape _ | .connector _ => []
  | .branch _ a b => partsOfAll a ++ partsOfAll b
  | .each _ _ _ body => partsOfAll body

def partsOfAll : List Instruction → List Instruction
  | [] => []
  | i :: rest => parts i ++ partsOfAll rest

end

/-- All numbers that are written in an instruction and in its bodies are finite. -/
def HasFiniteLiterals (i : Instruction) : Prop := ∀ e ∈ i.exprs, e.HasFiniteLiterals

theorem hasFiniteLiterals_iff {i : Instruction} :
    i.HasFiniteLiterals ↔
      (∀ e ∈ i.ownExprs, e.HasFiniteLiterals) ∧ ∀ j ∈ i.inner, j.HasFiniteLiterals := by
  constructor
  · intro h
    exact ⟨fun e he => h e (mem_exprs_iff.mpr (.inl he)),
      fun j hj e he => h e (mem_exprs_iff.mpr (.inr ⟨j, hj, he⟩))⟩
  · rintro ⟨hown, hinner⟩ e he
    obtain he | ⟨j, hj, he⟩ := mem_exprs_iff.mp he
    · exact hown e he
    · exact hinner j hj e he

end Instruction

namespace RenderProgram

/-- The numbers that are written in a program. -/
def literals (p : RenderProgram) : List Float :=
  Expr.literalsOfAll (Instruction.exprsOfAll p.body)

/-- All numbers that are written in a program are finite. -/
def HasFiniteLiterals (p : RenderProgram) : Prop := ∀ x ∈ p.literals, x.isFinite = true

theorem hasFiniteLiterals_iff {p : RenderProgram} :
    p.HasFiniteLiterals ↔ ∀ i ∈ p.body, i.HasFiniteLiterals := by
  simp only [HasFiniteLiterals, literals, Instruction.HasFiniteLiterals, Expr.HasFiniteLiterals,
    Expr.mem_literalsOfAll, Instruction.mem_exprsOfAll]
  grind

end RenderProgram

end SlideDeck
