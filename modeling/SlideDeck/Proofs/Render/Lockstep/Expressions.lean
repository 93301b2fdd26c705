import Mathlib.Data.List.Forall2
import SlideDeck.Proofs.Render.Lockstep.Basic

/-!
# Evaluations in lock step

An expression is evaluated in lock step under two inputs that agree on its paths. The
paths are those that the program's own listing collects, so the walk below is also the
proof that no operand is missing from it.
-/

namespace SlideDeck

/-- The inputs of two runs can be told apart by their limits only, as far as some paths
go: every path leads to the same place, whatever is bound. -/
structure RunInput.Shadows (tight : Prop) (left right : RunInput) (paths : List String) :
    Prop where
  limits : left.limits.Tightens tight right.limits
  theme : left.theme = right.theme
  resolve : ∀ path ∈ paths, ∀ scopes, left.resolve scopes path = right.resolve scopes path

theorem RunInput.Shadows.of_subset {tight : Prop} {left right : RunInput}
    {inner outer : List String} (h : left.Shadows tight right outer) (hsub : inner ⊆ outer) :
    left.Shadows tight right inner :=
  ⟨h.limits, h.theme, fun path hpath => h.resolve path (hsub hpath)⟩

theorem RunInput.Shadows.of_append {tight : Prop} {left right : RunInput}
    {front back : List String} (h : left.Shadows tight right (front ++ back)) :
    left.Shadows tight right front ∧ left.Shadows tight right back :=
  ⟨h.of_subset (List.subset_append_left _ _), h.of_subset (List.subset_append_right _ _)⟩

theorem Expr.mem_pathsOfAll {exprs : List Expr} {path : String} :
    path ∈ pathsOfAll exprs ↔ ∃ e ∈ exprs, path ∈ e.paths := by
  induction exprs with
  | nil => simp [pathsOfAll]
  | cons e rest ih => simp [pathsOfAll, ih]

theorem Expr.paths_subset_of_mem {exprs : List Expr} {e : Expr} (he : e ∈ exprs) :
    e.paths ⊆ pathsOfAll exprs :=
  fun _ hpath => mem_pathsOfAll.mpr ⟨e, he, hpath⟩

theorem Expr.pathsOfAll_subset {inner outer : List Expr} (hsub : inner ⊆ outer) :
    pathsOfAll inner ⊆ pathsOfAll outer := by
  intro path hpath
  obtain ⟨e, he, hpath⟩ := mem_pathsOfAll.mp hpath
  exact mem_pathsOfAll.mpr ⟨e, hsub he, hpath⟩

section Expressions

variable {tight : Prop}

theorem number_inStep {left right : Eval Json} (op : String) (h : InStep tight left right) :
    InStep tight (Eval.number op left) (Eval.number op right) :=
  h.bind fun _ => .refl _

theorem text_inStep {left right : Eval Json} (op : String) (h : InStep tight left right) :
    InStep tight (Eval.text op left) (Eval.text op right) :=
  h.bind fun _ => .refl _

/-- Operands that are in lock step are fed in lock step. -/
theorem feed_inStep {σ : Type} {step step' : σ → Json → Except ExecutionError (ForInStep σ)}
    (hstep : ∀ built value, OutcomesMatch tight (step built value) (step' built value))
    {left right : List (Eval Json)} (h : List.Forall₂ (InStep tight) left right) (built : σ) :
    InStep tight (Eval.feed step built left) (Eval.feed step' built right) := by
  induction h generalizing built with
  | nil => exact .refl _
  | cons hfirst _ ih =>
      refine hfirst.bind fun value => (InStep.of_outcome (hstep built value)).bind fun next => ?_
      cases next with
      | yield built => exact ih built
      | done built => exact .refl _

namespace Expr

mutual

/-- An expression is evaluated in lock step if the inputs agree on the paths in it. -/
theorem eval_inStep {left right : RunInput} (scopes : List Scope) (depth : Nat) (e : Expr)
    (h : left.Shadows tight right e.paths) :
    InStep tight (eval left scopes depth e) (eval right scopes depth e) := by
  unfold eval
  refine (tick_inStep h.limits depth).bind fun _ => ?_
  cases e with
  | number _ | bool _ | string _ => exact .refl _
  | var path =>
      simp only [h.resolve path (List.mem_singleton_self path)]
      exact .refl _
  | arith op a b =>
      obtain ⟨ha, hb⟩ := RunInput.Shadows.of_append h
      exact (number_inStep _ (eval_inStep scopes (depth + 2) a ha)).bind fun _ =>
        (number_inStep _ (eval_inStep scopes (depth + 2) b hb)).bind fun _ => .refl _
  | divOr a b other =>
      obtain ⟨hab, hother⟩ := RunInput.Shadows.of_append h
      obtain ⟨ha, hb⟩ := RunInput.Shadows.of_append hab
      refine (number_inStep _ (eval_inStep scopes (depth + 2) a ha)).bind fun _ =>
        (number_inStep _ (eval_inStep scopes (depth + 2) b hb)).bind fun _ => ?_
      split
      · exact eval_inStep scopes (depth + 1) other hother
      · exact .refl _
  | unary op a =>
      exact (number_inStep _ (eval_inStep scopes (depth + 2) a h)).bind fun _ => .refl _
  | extreme op xs =>
      exact (feed_inStep (fun _ _ => .refl _)
        (evaluations_inStep scopes (depth + 2) xs h) none).bind fun _ => .refl _
  | len a | get a _ | maxOf a _ | not a | «exists» a =>
      exact (eval_inStep scopes (depth + 1) a h).bind fun _ => .refl _
  | «at» a i | take a i =>
      obtain ⟨ha, hi⟩ := RunInput.Shadows.of_append h
      exact (eval_inStep scopes (depth + 1) a ha).bind fun _ =>
        (number_inStep _ (eval_inStep scopes (depth + 2) i hi)).bind fun _ => .refl _
  | list xs =>
      exact (feed_inStep (listStep_match h.limits)
        (evaluations_inStep scopes (depth + 1) xs h) ([], 0)).bind fun _ => .refl _
  | eq a b | ne a b | order _ a b | contains a b =>
      obtain ⟨ha, hb⟩ := RunInput.Shadows.of_append h
      exact (eval_inStep scopes (depth + 1) a ha).bind fun _ =>
        (eval_inStep scopes (depth + 1) b hb).bind fun _ => .refl _
  | logic op xs =>
      exact (feed_inStep (fun _ _ => .refl _)
        (evaluations_inStep scopes (depth + 1) xs h) _).bind fun _ => .refl _
  | cond c a b =>
      obtain ⟨hca, hb⟩ := RunInput.Shadows.of_append h
      obtain ⟨hc, ha⟩ := RunInput.Shadows.of_append hca
      refine (eval_inStep scopes (depth + 1) c hc).bind fun _ => ?_
      split
      · exact eval_inStep scopes (depth + 1) a ha
      · exact eval_inStep scopes (depth + 1) b hb
  | default a b =>
      obtain ⟨ha, hb⟩ := RunInput.Shadows.of_append h
      refine (eval_inStep scopes (depth + 1) a ha).bind fun value => ?_
      cases value with
      | null => exact eval_inStep scopes (depth + 1) b hb
      | bool _ | number _ | string _ | array _ | object _ => exact .refl _
  | concat xs =>
      exact (feed_inStep (concatStep_match h.limits)
        (evaluations_inStep scopes (depth + 1) xs h) "").bind fun _ => .refl _
  | str a =>
      exact (text_inStep _ (eval_inStep scopes (depth + 1) a h)).bind fun _ =>
        (InStep.of_outcome (fits_match h.limits _)).bind fun _ => .refl _
  | join sep xs =>
      obtain ⟨hsep, hxs⟩ := RunInput.Shadows.of_append h
      exact (text_inStep _ (eval_inStep scopes (depth + 1) sep hsep)).bind fun sep =>
        (feed_inStep (joinStep_match h.limits sep)
          (evaluations_inStep scopes (depth + 1) xs hxs) ([], 0)).bind fun _ => .refl _

theorem evaluations_inStep {left right : RunInput} (scopes : List Scope) (depth : Nat)
    (xs : List Expr) (h : left.Shadows tight right (pathsOfAll xs)) :
    List.Forall₂ (InStep tight) (evaluations left scopes depth xs)
      (evaluations right scopes depth xs) := by
  cases xs with
  | nil => exact .nil
  | cons x rest =>
      obtain ⟨hx, hrest⟩ := RunInput.Shadows.of_append h
      exact .cons (eval_inStep scopes depth x hx) (evaluations_inStep scopes depth rest hrest)

end

end Expr

end Expressions

end SlideDeck
