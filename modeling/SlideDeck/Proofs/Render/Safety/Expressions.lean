import SlideDeck.Proofs.Numeric.Binary64
import SlideDeck.Proofs.Program.Operands
import SlideDeck.Proofs.Render.Lockstep.Expressions
import SlideDeck.Proofs.Render.Safety.Basic
import SlideDeck.Proofs.Render.Scopes.Visibility
import SlideDeck.Proofs.Theme.Storage

/-!
# Expressions without mistakes

What is bound at a point of a program is a matter of the program alone, and so are some facts about
values: a maximum is above zero when one of its operands is, a colour of the theme is a colour. An
expression that reads only what is bound, and divides only by what is known to be above zero, makes
no mistake over any scopes in which the names are bound in this way.
-/

namespace SlideDeck

/-- What is known of a value before a run. -/
inductive Known
  | anything
  | positive
  | color
deriving DecidableEq, Repr

/-- A value is as it is known to be. -/
def Known.Holds : Known → Json → Prop
  | anything, _ => True
  | positive, value => ∃ x, value.toFloat? = some x ∧ 0 < x
  | color, value => ∃ c, Run.colorOf value = .ok c

/-- The names that are bound at a point of a program, the innermost first, and what is known of
their values. -/
abbrev Environment := List (String × Known)

/-- The scopes bind what an environment names, with values as they are known to be. -/
structure Environment.Describes (env : Environment) (scopes : List Scope) : Prop where
  proper : Scope.Proper scopes
  known : ∀ name k, env.lookup name = some k →
    ∃ value, Scope.find? scopes name = some value ∧ k.Holds value

/-! ## The check -/

/-- The paths to the colours of the theme. -/
def Theme.colorPaths : List String :=
  ["theme.colors.primary", "theme.colors.secondary", "theme.colors.accent", "theme.colors.text",
    "theme.colors.background"]

namespace Expr

/-- What is known of a number that is written in a program. -/
def knownNumber (x : Float) : Known := if 0 < x then .positive else .anything

/-- What is known of the value of an expression. -/
def known (env : Environment) : Expr → Known
  | .number x => knownNumber x
  | .string s => if (Color.parse? s).isSome then .color else .anything
  | .var path =>
    if Theme.colorPaths.contains path then .color else (env.lookup path).getD .anything
  | .extreme .max (.number x :: _) => knownNumber x
  | .cond _ a b => if known env a = known env b then known env a else .anything
  | _ => .anything

/-- A variable starts at an input or at a name that is bound, and a divisor is above zero. -/
def isSafeHere (env : Environment) : Expr → Bool
  | .var path =>
    inputNames.contains (firstSegment path) || (env.lookup (firstSegment path)).isSome
  | .arith .div _ b | .arith .mod _ b => known env b = .positive
  | _ => true

/-- All parts of an expression keep to what is known. -/
def isSafe (env : Environment) (e : Expr) : Bool := e.parts.all (isSafeHere env)

theorem known_divisor {env : Environment} {op : ArithOp} {a b : Expr}
    (hop : op = .div ∨ op = .mod) (h : (arith op a b).isSafeHere env = true) :
    b.known env = .positive := by
  rcases hop with rfl | rfl
  · exact of_decide_eq_true h
  · exact of_decide_eq_true h

theorem isSafe_iff {env : Environment} {e : Expr} :
    e.isSafe env = true ↔
      e.isSafeHere env = true ∧ ∀ a ∈ e.operands, a.isSafe env = true := by
  simp only [isSafe, List.all_eq_true]
  constructor
  · intro h
    exact ⟨h e (mem_parts_iff.mpr (.inl rfl)),
      fun a ha part hpart => h part (mem_parts_iff.mpr (.inr ⟨a, ha, hpart⟩))⟩
  · rintro ⟨hself, hoperands⟩ part hpart
    obtain rfl | ⟨a, ha, hpart⟩ := mem_parts_iff.mp hpart
    · exact hself
    · exact hoperands a ha part hpart

theorem isSafe_of_mem_parts {env : Environment} {e part : Expr} (h : e.isSafe env = true)
    (hpart : part ∈ e.parts) : part.isSafe env = true := by
  induction e using operandInduction with
  | step e ih =>
      obtain rfl | ⟨a, ha, hpart⟩ := mem_parts_iff.mp hpart
      · exact h
      · exact ih a ha ((isSafe_iff.mp h).2 a ha) hpart

end Expr

/-! ## Operations on finished values -/

section Operations

theorem faultless_ofResult (op : String) (x : Float) :
    Faultless (fun value => value.toFloat? = some x) (ofResult op x) := by
  unfold ofResult Json.Number.ofFloat?
  by_cases hfinite : x.isFinite = true
  · simp only [dif_pos hfinite]
    exact rfl
  · simp only [dif_neg hfinite]
    exact rfl

theorem faultless_apply {op : ArithOp} {x y : Float} (h : op = .div ∨ op = .mod → 0 < y) :
    Faultless (fun _ => True) (op.apply x y) := by
  cases op with
  | add | sub | mul => exact True.intro
  | div =>
      simp only [ArithOp.apply, Binary64.beq_zero_of_zero_lt (h (.inl rfl))]
      exact True.intro
  | mod =>
      simp only [ArithOp.apply, Binary64.beq_zero_of_zero_lt (h (.inr rfl))]
      exact True.intro

theorem faultless_numberOf (op : String) (value : Json) :
    Faultless (fun x => value.toFloat? = some x) (numberOf op value) := by
  cases value with
  | number n => exact rfl
  | null | bool _ | string _ | array _ | object _ => exact rfl

theorem faultless_textOf (op : String) (value : Json) :
    Faultless (fun _ => True) (textOf op value) := by
  cases value with
  | bool _ | number _ | string _ => exact True.intro
  | null | array _ | object _ => exact rfl

theorem faultless_fits (limits : ExecutionLimits) (size : Nat) :
    Faultless (fun _ => True) (Eval.fits limits size) := by
  unfold Eval.fits
  split
  · exact rfl
  · exact True.intro

theorem faultless_lengthOf (value : Json) : Faultless (fun _ => True) (lengthOf value) := by
  cases value with
  | null | string _ | array _ | object _ => exact True.intro
  | bool _ | number _ => exact rfl

theorem faultless_itemAt (items : Json) (index : Float) :
    Faultless (fun _ => True) (itemAt items index) := by
  cases items with
  | array values =>
      simp only [itemAt]
      split
      · exact True.intro
      · exact True.intro
  | null => exact True.intro
  | bool _ | number _ | string _ | object _ => exact rfl

theorem faultless_memberOf (key : String) (value : Json) :
    Faultless (fun _ => True) (memberOf key value) := by
  cases value with
  | null | object _ => exact True.intro
  | bool _ | number _ | string _ | array _ => exact rfl

theorem faultless_firstItems (items : Json) (count : Float) :
    Faultless (fun _ => True) (firstItems items count) := by
  cases items with
  | null | array _ => exact True.intro
  | bool _ | number _ | string _ | object _ => exact rfl

theorem faultless_greatestField (field : String) (value : Json) :
    Faultless (fun _ => True) (greatestField field value) := by
  cases value with
  | array items =>
      unfold greatestField
      apply Faultless.bind
      · apply Faultless.foldlM
        intro best item
        exact (faultless_numberOf _ _).bind fun _ _ => True.intro
      intro best _
      cases best with
      | none => exact True.intro
      | some x => exact (faultless_ofResult "max_of" x).mono fun _ _ => True.intro
  | null | bool _ | number _ | string _ | object _ => exact rfl

theorem faultless_compareValues (a b : Json) :
    Faultless (fun _ => True) (compareValues a b) := by
  unfold compareValues
  split
  · exact True.intro
  · exact (faultless_numberOf "compare" a).bind fun x _ =>
      (faultless_numberOf "compare" b).bind fun y _ => True.intro

theorem faultless_containsValue (a b : Json) :
    Faultless (fun _ => True) (containsValue a b) := by
  unfold containsValue
  split
  next => exact True.intro
  next => exact True.intro
  next => exact True.intro
  next => exact rfl

theorem faultless_extremeStep (op : ExtremeOp) (best : Option Float) (value : Json) :
    Faultless (fun _ => True) (extremeStep op best value) :=
  (faultless_numberOf op.name value).bind fun _ _ => True.intro

theorem faultless_listStep (limits : ExecutionLimits) (built : List Json × Nat) (value : Json) :
    Faultless (fun _ => True) (listStep limits built value) :=
  (faultless_fits limits _).bind fun _ _ => True.intro

theorem faultless_concatStep (limits : ExecutionLimits) (built : String) (value : Json) :
    Faultless (fun _ => True) (concatStep limits built value) :=
  (faultless_textOf "concat" value).bind fun _ _ =>
    (faultless_fits limits _).bind fun _ _ => True.intro

theorem faultless_joinStep (limits : ExecutionLimits) (sep : String) (built : List String × Nat)
    (value : Json) : Faultless (fun _ => True) (joinStep limits sep built value) := by
  unfold joinStep
  split
  next => exact True.intro
  next =>
    apply (faultless_textOf "join" value).bind
    intro part _
    split
    next => exact True.intro
    next => exact (faultless_fits limits _).bind fun _ _ => True.intro

/-- A maximum that is above zero so far stays there. -/
theorem faultless_extremeStep_max {x : Float} (hx : 0 < x) (value : Json) :
    Faultless (fun next => ∃ best, next.value = some best ∧ 0 < best)
      (extremeStep .max (some x) value) := by
  apply (faultless_numberOf "max" value).bind
  intro y hy
  cases value with
  | number n =>
      obtain rfl := Option.some.inj hy
      exact ⟨_, rfl, Binary64.zero_lt_greatest hx n.isFinite_toFloat⟩
  | null | bool _ | string _ | array _ | object _ => cases hy

end Operations

/-! ## Variables -/

/-- What a colour path leads to in any theme. -/
theorem Theme.follow_colorPath (t : Theme) {path : String} (h : path ∈ colorPaths) :
    Expr.firstSegment path = "theme" ∧
      ∃ c : Color, t.programValue.follow (Expr.segments path).tail = .string c.text := by
  simp only [colorPaths, List.mem_cons, List.not_mem_nil, or_false] at h
  rcases h with rfl | rfl | rfl | rfl | rfl
  · exact ⟨rfl, t.colors.primary, rfl⟩
  · exact ⟨rfl, t.colors.secondary, rfl⟩
  · exact ⟨rfl, t.colors.accent, rfl⟩
  · exact ⟨rfl, t.colors.text, rfl⟩
  · exact ⟨rfl, t.colors.background, rfl⟩

namespace Expr

/-- A path without a dot is its only segment. -/
theorem segments_of_undotted {path : String} (h : '.' ∉ path.toList) : segments path = [path] := by
  have hone : Text.splitOn '.' (['.'].intercalate [path.toList]) = [path.toList] :=
    Text.splitOn_intercalate (by simpa using h) (List.cons_ne_nil _ _)
  rw [List.intercalate_singleton] at hone
  rw [segments, hone, List.map_singleton, String.ofList_toList]

theorem mem_paths_iff {e : Expr} {path : String} :
    path ∈ e.paths ↔ e = .var path ∨ ∃ a ∈ e.operands, path ∈ a.paths := by
  cases e <;> simp [paths, operands, mem_pathsOfAll, eq_comm]

/-- The paths that an expression reads are the variables among its parts. -/
theorem mem_paths_iff_var_mem_parts {e : Expr} {path : String} :
    path ∈ e.paths ↔ .var path ∈ e.parts := by
  induction e using operandInduction with
  | step e ih =>
      rw [mem_parts_iff, mem_paths_iff]
      exact or_congr eq_comm (exists_congr fun a => and_congr_right (ih a))

end Expr

namespace Environment.Describes

variable {env : Environment} {scopes : List Scope} {input : RunInput} {path : String}

/-- A path that starts at an input or at a name that is bound leads to a value. -/
theorem exists_resolve (h : env.Describes scopes)
    (hpath : (Expr.var path).isSafeHere env = true) (input : RunInput) :
    ∃ value, input.resolve scopes path = .ok value := by
  cases hresolve : input.resolve scopes path with
  | ok value => exact ⟨value, rfl⟩
  | error e =>
      obtain ⟨_, hroot, hbound⟩ := RunInput.resolve_eq_error_iff.mp hresolve
      rw [RunInput.root?_eq_none_iff] at hroot
      rw [← Scope.find?_eq_none_iff] at hbound
      rcases Bool.or_eq_true_iff.mp hpath with hinput | hknown
      · simp only [inputNames, List.contains_iff_mem, List.mem_cons, List.not_mem_nil,
          or_false] at hinput
        rcases hinput with heq | heq | heq
        · exact absurd heq hroot.1
        · exact absurd heq hroot.2.1
        · exact absurd heq hroot.2.2
      · obtain ⟨k, hk⟩ := Option.isSome_iff_exists.mp hknown
        obtain ⟨value, hvalue, _⟩ := h.known _ _ hk
        rw [hbound] at hvalue
        cases hvalue

/-- What is known of a variable holds of what its path leads to. -/
theorem holds_resolve (h : env.Describes scopes) {value : Json}
    (hvalue : input.resolve scopes path = .ok value) :
    ((Expr.var path).known env).Holds value := by
  unfold Expr.known
  split
  next hcolor =>
    obtain ⟨hfirst, c, hc⟩ := input.theme.follow_colorPath (List.contains_iff_mem.mp hcolor)
    have hroot : input.root? (Expr.firstSegment path) = some input.theme.programValue := by
      rw [hfirst]
      rfl
    rw [RunInput.resolve_of_root? h.proper hroot, hc] at hvalue
    obtain rfl := Except.ok.inj hvalue
    exact ⟨some c, by simp only [Run.colorOf, Color.parse?_text]⟩
  next =>
    cases hknown : env.lookup path with
    | none => exact True.intro
    | some k =>
        -- what is bound has no dot in its name, so the path is that name and nothing more
        obtain ⟨bound, hfind, hbound⟩ := h.known _ _ hknown
        have hundotted : '.' ∉ path.toList := by
          apply (h.proper path _).undotted
          by_contra hunbound
          rw [Scope.find?_eq_none_iff.mpr hunbound] at hfind
          cases hfind
        have hsegments := Expr.segments_of_undotted hundotted
        have hfirst : Expr.firstSegment path = path := by rw [Expr.firstSegment, hsegments]; rfl
        rw [RunInput.resolve_eq, hfirst, hfind, hsegments] at hvalue
        obtain rfl := Except.ok.inj hvalue
        exact hbound

end Environment.Describes

/-! ## Expressions -/

namespace Expr

variable {env : Environment} {scopes : List Scope} {input : RunInput}

/-- An expression has a value as it is known to be. -/
def HasKnownValue (env : Environment) (e : Expr) (value : Json) : Prop := (e.known env).Holds value

theorem faultless_number (x : Float) :
    Faultless (HasKnownValue env (number x)) (ofResult "literal" x) := by
  apply (faultless_ofResult "literal" x).mono
  intro value hvalue
  unfold HasKnownValue known knownNumber
  split
  next hpositive => exact ⟨x, hvalue, hpositive⟩
  next => exact True.intro

theorem hasKnownValue_string (s : String) : HasKnownValue env (string s) (.string s) := by
  unfold HasKnownValue known
  split
  next hcolor =>
    obtain ⟨c, hc⟩ := Option.isSome_iff_exists.mp hcolor
    exact ⟨some c, by simp only [Run.colorOf, hc]⟩
  next => exact True.intro

/-- A quotient or remainder whose divisor is above zero makes no mistake. -/
theorem faultless_arith {op : ArithOp} {a b : Expr} (h : (arith op a b).isSafeHere env = true) :
    ((arith op a b).plan input scopes).Faultless (HasKnownValue env) [a, b] fun _ => True := by
  apply (Plan.Faultless.number List.mem_cons_self 1 op.name).bind
  intro x _
  apply (Plan.Faultless.number (List.mem_cons_of_mem a List.mem_cons_self) 1 op.name).bind
  rintro y ⟨value, hknown, hvalue⟩
  have hdivisor : op = .div ∨ op = .mod → 0 < y := by
    intro hop
    rw [HasKnownValue, known_divisor hop h] at hknown
    obtain ⟨z, hz, hzero⟩ := hknown
    rw [hvalue] at hz
    obtain rfl := Option.some.inj hz
    exact hzero
  exact (faultless_apply hdivisor).bind fun z _ =>
    (faultless_ofResult op.name z).mono fun _ _ => True.intro

/-- What is known of both branches is known of the choice. -/
theorem hasKnownValue_cond {c a b : Expr} {value : Json}
    (h : HasKnownValue env a value ∨ HasKnownValue env b value) :
    HasKnownValue env (cond c a b) value := by
  unfold HasKnownValue known
  split
  next heq =>
    rcases h with h | h
    · exact h
    · rw [heq]
      exact h
  next => exact True.intro

/-- The only extremes that something is known of are the maxima whose first operand is written as
a number above zero. -/
theorem known_extreme_cases (env : Environment) (op : ExtremeOp) (xs : List Expr) :
    (extreme op xs).known env = .anything ∨
      ∃ x rest, op = .max ∧ xs = .number x :: rest ∧ 0 < x ∧
        (extreme op xs).known env = .positive := by
  unfold known
  split
  case h_4 x rest heq =>
    obtain ⟨rfl, rfl⟩ := extreme.inj heq
    unfold knownNumber
    split
    next hx => exact .inr ⟨x, rest, rfl, rfl, hx, rfl⟩
    next => exact .inl rfl
  case h_6 => exact .inl rfl
  case h_1 heq | h_2 heq | h_3 heq | h_5 heq => cases heq

/-- Extremes make no mistake. -/
theorem faultless_extreme (op : ExtremeOp) (xs : List Expr) :
    ((extreme op xs).plan input scopes).Faultless (HasKnownValue env) xs
      (HasKnownValue env (extreme op xs)) := by
  unfold HasKnownValue plan
  obtain hknown | ⟨x, rest, rfl, rfl, hx, hknown⟩ := known_extreme_cases env op xs
  · rw [hknown]
    apply (Plan.Faultless.feed_any (faultless_extremeStep op) 1 fun _ hx => hx).bind
    intro best _
    cases best with
    | none => exact rfl
    | some x => exact (faultless_ofResult op.name x).mono fun _ _ => True.intro
  · rw [hknown]
    -- the first operand starts the maximum above zero, and every other one keeps it there
    have hfeed : (Plan.feed 1 (extremeStep .max) none (.number x :: rest)).Faultless
        (HasKnownValue env) (.number x :: rest) fun best => ∃ y, best = some y ∧ 0 < y := by
      apply (Plan.Faultless.value List.mem_cons_self 1).bind
      intro first hfirst
      unfold HasKnownValue known knownNumber at hfirst
      rw [if_pos hx] at hfirst
      obtain ⟨y, hvalue, hy⟩ := hfirst
      have hstep : extremeStep .max none first = .ok (.yield (some y)) := by
        simp only [extremeStep, numberOf, hvalue]
        rfl
      rw [hstep]
      apply Plan.Faultless.feed _ 1 (fun _ => List.mem_cons_of_mem _) ⟨y, rfl, hy⟩
      rintro _ v ⟨best, rfl, hbest⟩
      exact faultless_extremeStep_max hbest v
    apply hfeed.bind
    rintro _ ⟨y, rfl, hy⟩
    exact (faultless_ofResult "max" y).mono fun value hvalue => ⟨y, hvalue, hy⟩

/-- The plan of an expression that keeps to what is known makes no mistake, and its value is as it
is known to be. -/
theorem faultless_plan (hscopes : env.Describes scopes) {e : Expr}
    (h : e.isSafeHere env = true) :
    (e.plan input scopes).Faultless (HasKnownValue env) e.operands (HasKnownValue env e) := by
  cases e with
  | number x => exact faultless_number x
  | bool b => exact True.intro
  | string s => exact hasKnownValue_string s
  | var path =>
      obtain ⟨value, hvalue⟩ := hscopes.exists_resolve h input
      simp only [plan, hvalue]
      exact hscopes.holds_resolve hvalue
  | arith op a b => exact faultless_arith h
  | divOr a b other =>
      apply (Plan.Faultless.number List.mem_cons_self 1 "div_or").bind
      intro x _
      apply (Plan.Faultless.number (by simp) 1 "div_or").bind
      intro y _
      split
      · exact (Plan.Faultless.value (by simp) 0).bind fun _ _ => True.intro
      · exact (faultless_ofResult "div_or" (x / y)).mono fun _ _ => True.intro
  | unary op a =>
      exact (Plan.Faultless.number List.mem_cons_self 1 op.name).bind fun x _ =>
        (faultless_ofResult op.name (op.apply x)).mono fun _ _ => True.intro
  | extreme op xs => exact faultless_extreme op xs
  | len a =>
      exact (Plan.Faultless.value List.mem_cons_self 0).bind fun v _ => faultless_lengthOf v
  | «at» a i =>
      exact (Plan.Faultless.value List.mem_cons_self 0).bind fun items _ =>
        (Plan.Faultless.number (by simp) 1 "at").bind fun index _ =>
          faultless_itemAt items index
  | get a key =>
      exact (Plan.Faultless.value List.mem_cons_self 0).bind fun v _ => faultless_memberOf key v
  | take a n =>
      exact (Plan.Faultless.value List.mem_cons_self 0).bind fun items _ =>
        (Plan.Faultless.number (by simp) 1 "take").bind fun count _ =>
          faultless_firstItems items count
  | maxOf a field =>
      exact (Plan.Faultless.value List.mem_cons_self 0).bind fun v _ =>
        faultless_greatestField field v
  | list xs =>
      exact (Plan.Faultless.feed_any (faultless_listStep input.limits) 0 fun _ hx => hx).bind
        fun _ _ => True.intro
  | eq a b | ne a b =>
      exact (Plan.Faultless.value List.mem_cons_self 0).bind fun x _ =>
        (Plan.Faultless.value (by simp) 0).bind fun y _ => True.intro
  | order op a b =>
      exact (Plan.Faultless.value List.mem_cons_self 0).bind fun x _ =>
        (Plan.Faultless.value (by simp) 0).bind fun y _ =>
          (Plan.Faultless.done (faultless_compareValues x y)).bind fun _ _ => True.intro
  | not a => exact (Plan.Faultless.value List.mem_cons_self 0).bind fun _ _ => True.intro
  | «exists» a =>
      apply (Plan.Faultless.value List.mem_cons_self 0).bind
      intro v _
      cases v with
      | null => exact True.intro
      | bool _ | number _ | string _ | array _ | object _ => exact True.intro
  | logic op xs =>
      have hstep : ∀ (built : Bool) (v : Json),
          Faultless (fun _ => True) (Except.ok (logicStep op v)) :=
        fun _ _ => True.intro
      exact (Plan.Faultless.feed_any hstep 0 fun _ hx => hx).bind fun _ _ => True.intro
  | cond c a b =>
      apply (Plan.Faultless.value List.mem_cons_self 0).bind
      intro v _
      split
      · exact (Plan.Faultless.value (by simp) 0).mono fun _ hw => hasKnownValue_cond (.inl hw)
      · exact (Plan.Faultless.value (by simp) 0).mono fun _ hw => hasKnownValue_cond (.inr hw)
  | default a b =>
      apply (Plan.Faultless.value List.mem_cons_self 0).bind
      intro v _
      cases v with
      | null => exact (Plan.Faultless.value (by simp) 0).bind fun _ _ => True.intro
      | bool _ | number _ | string _ | array _ | object _ => exact True.intro
  | concat xs =>
      exact (Plan.Faultless.feed_any (faultless_concatStep input.limits) 0 fun _ hx => hx).bind
        fun _ _ => True.intro
  | str a =>
      exact (Plan.Faultless.text List.mem_cons_self "str").bind fun text _ =>
        (Plan.Faultless.done (faultless_fits input.limits text.utf8ByteSize)).bind
          fun _ _ => True.intro
  | contains a b =>
      exact (Plan.Faultless.value List.mem_cons_self 0).bind fun x _ =>
        (Plan.Faultless.value (by simp) 0).bind fun y _ =>
          (Plan.Faultless.done (faultless_containsValue x y)).bind fun _ _ => True.intro
  | join sep xs =>
      exact (Plan.Faultless.text List.mem_cons_self "join").bind fun sep _ =>
        (Plan.Faultless.feed_any (faultless_joinStep input.limits sep) 0
          fun _ hx => List.mem_cons_of_mem _ hx).bind fun _ _ => True.intro

/-- An expression that keeps to what is known makes no mistake at whatever depth and after however
many steps, and its value is as it is known to be. -/
theorem safe_eval (hscopes : env.Describes scopes) (e : Expr) (h : e.isSafe env = true)
    (depth : Nat) :
    Safe (fun _ => True) (fun value _ => HasKnownValue env e value)
      (e.eval input scopes depth) := by
  induction e using operandInduction generalizing depth with
  | step e ih =>
      obtain ⟨hself, hoperands⟩ := isSafe_iff.mp h
      rw [eval_eq]
      apply (Safe.tick input.limits depth).bind
      intro _
      apply ((faultless_plan hscopes hself).carryOut _).mono (fun _ h => h) fun _ _ h => h.1
      intro below a ha
      exact (ih a ha (hoperands a ha) _).mono (fun _ h => h) fun _ _ hvalue =>
        ⟨hvalue, True.intro⟩

theorem hasKnownValue_of_eval (hscopes : env.Describes scopes) {e : Expr}
    (h : e.isSafe env = true) {depth steps : Nat} {value : Json}
    (hvalue : ((e.eval input scopes depth).run.run steps).1 = .ok value) :
    HasKnownValue env e value :=
  (safe_eval hscopes e h depth steps True.intro).of_eq_ok hvalue

end Expr

end SlideDeck
