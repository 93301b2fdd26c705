import SlideDeck.Proofs.Render.Scopes.Bindings
import SlideDeck.Proofs.Text.Pieces

/-!
# What a program can name

Programs bind no name that is empty or dotted or an input, and nothing else puts names into
scopes. So wherever a run comes, the inputs are hidden by no binding, and a path that starts
neither at an input nor at a binding leads nowhere.
-/

namespace SlideDeck

/-! ## Names in scopes -/

namespace Scope

/-- A name is bound in one of some scopes. -/
def Bound (scopes : List Scope) (name : String) : Prop :=
  ∃ scope ∈ scopes, ∃ value, (name, value) ∈ scope

theorem bound_cons_iff {scope : Scope} {outer : List Scope} {name : String} :
    Bound (scope :: outer) name ↔ (∃ value, (name, value) ∈ scope) ∨ Bound outer name := by
  simp only [Bound, List.mem_cons, exists_eq_or_imp]

theorem exists_mem_of_mem_bind {name other : String} {value found : Json} {scope : Scope}
    (h : (other, found) ∈ bind name value scope) :
    other = name ∨ ∃ old, (other, old) ∈ scope := by
  induction scope with
  | nil =>
      cases List.mem_singleton.mp h
      exact .inl rfl
  | cons binding rest ih =>
      obtain ⟨first, old⟩ := binding
      unfold bind at h
      split at h
      next =>
        rcases List.mem_cons.mp h with heq | hrest
        · cases heq
          exact .inl rfl
        · exact .inr ⟨found, List.mem_cons_of_mem _ hrest⟩
      next =>
        rcases List.mem_cons.mp h with heq | hrest
        · cases heq
          exact .inr ⟨_, List.mem_cons_self⟩
        · rcases ih hrest with hname | ⟨older, holder⟩
          · exact .inl hname
          · exact .inr ⟨older, List.mem_cons_of_mem _ holder⟩

theorem lookup_bind (name other : String) (value : Json) (scope : Scope) :
    (bind name value scope).lookup other =
      if other = name then some value else scope.lookup other := by
  induction scope with
  | nil =>
      unfold bind
      by_cases hother : other = name
      · subst hother
        rw [if_pos rfl, List.lookup_cons_self]
      · rw [if_neg hother, List.lookup_cons, beq_false_of_ne hother]
  | cons binding rest ih =>
      obtain ⟨first, old⟩ := binding
      unfold bind
      by_cases hfirst : first = name
      · subst hfirst
        rw [if_pos rfl, List.lookup_cons]
        by_cases hother : other = first
        · rw [if_pos hother, beq_iff_eq.mpr hother]
        · rw [if_neg hother, List.lookup_cons, beq_false_of_ne hother]
      · rw [if_neg hfirst, List.lookup_cons, ih]
        by_cases hother : other = first
        · subst hother
          simp [hfirst]
        · rw [List.lookup_cons, beq_false_of_ne hother]

/-- A name that has been bound is found with its new value, and every other name as before. -/
theorem find?_bind (name other : String) (value : Json) (scope : Scope) (outer : List Scope) :
    find? (bind name value scope :: outer) other =
      if other = name then some value else find? (scope :: outer) other := by
  unfold find?
  rw [List.findSome?_cons, List.findSome?_cons, lookup_bind]
  by_cases hother : other = name
  · rw [if_pos hother, if_pos hother]
  · rw [if_neg hother, if_neg hother]

theorem find?_eq_none_iff {scopes : List Scope} {name : String} :
    find? scopes name = none ↔ ¬ Bound scopes name := by
  unfold find? Bound
  rw [List.findSome?_eq_none_iff]
  constructor
  · rintro h ⟨scope, hscope, value, hvalue⟩
    have hlookup := List.lookup_eq_none_iff.mp (h scope hscope) (name, value) hvalue
    simp at hlookup
  · intro h scope hscope
    rw [List.lookup_eq_none_iff]
    rintro ⟨other, value⟩ hvalue
    have hother : name ≠ other := by
      rintro rfl
      exact h ⟨scope, hscope, value, hvalue⟩
    simpa using hother

end Scope

/-- A name that is neither empty nor dotted, and no input. -/
structure Run.Bindable (name : String) : Prop where
  nonempty : name ≠ ""
  undotted : '.' ∉ name.toList
  noInput : name ≠ "canvas" ∧ name ≠ "data" ∧ name ≠ "theme"

theorem Run.isBindable_iff {name : String} : isBindable name = true ↔ Bindable name := by
  have hchecked : isBindable name = true ↔
      name ≠ "" ∧ '.' ∉ name.toList ∧ name ≠ "canvas" ∧ name ≠ "data" ∧ name ≠ "theme" := by
    simp [isBindable, inputNames, and_assoc]
  rw [hchecked]
  exact ⟨fun ⟨hname, hdot, hinput⟩ => ⟨hname, hdot, hinput⟩,
    fun ⟨hname, hdot, hinput⟩ => ⟨hname, hdot, hinput⟩⟩

/-- No scope binds a name that may not be bound. -/
def Scope.Proper (scopes : List Scope) : Prop := ∀ name, Bound scopes name → Run.Bindable name

namespace Scope.Proper

variable {scope : Scope} {scopes outer : List Scope}

theorem initial : Proper RunState.initial.scopes := by
  rintro name ⟨scope, hscope, value, hvalue⟩
  rw [List.mem_singleton.mp hscope] at hvalue
  cases hvalue

theorem openScope (h : Proper scopes) : Proper ([] :: scopes) := by
  intro name hname
  rcases bound_cons_iff.mp hname with ⟨_, hmem⟩ | houter
  · cases hmem
  · exact h name houter

theorem bind {name : String} (h : Proper (scope :: outer)) (hname : Run.isBindable name = true)
    (value : Json) : Proper (Scope.bind name value scope :: outer) := by
  intro other hother
  rcases bound_cons_iff.mp hother with ⟨_, hmem⟩ | houter
  · rcases exists_mem_of_mem_bind hmem with rfl | ⟨old, hold⟩
    · exact Run.isBindable_iff.mp hname
    · exact h other (bound_cons_iff.mpr (.inl ⟨old, hold⟩))
  · exact h other (bound_cons_iff.mpr (.inr houter))

theorem bindAll (bindings : List (String × Json)) {state : RunState} (h : Proper state.scopes) :
    Proper ((Run.bindAll bindings).run.run state).2.scopes := by
  induction bindings generalizing state with
  | nil => exact h
  | cons binding rest ih =>
      obtain ⟨name, value⟩ := binding
      unfold Run.bindAll
      rw [run_bind_run]
      obtain ⟨e, hrun⟩ | ⟨hname, scope, outer, hscopes, hrun⟩ := Run.bind_cases name value state
      · rw [hrun]
        exact h
      · rw [hrun]
        rw [hscopes] at h
        exact ih (h.bind hname value)

theorem binds {input : RunInput} {depth : Nat} {made : List (String × Expr)}
    {after : List Scope} (h : Proper scopes) (hbinds : Run.Binds input depth made scopes after) :
    Proper after := by
  induction hbinds with
  | nil => exact h
  | cons hname _ _ ih => exact ih (h.bind hname _)

end Scope.Proper

/-! ## Paths -/

/-- The segment that a path starts with. -/
def Expr.firstSegment (path : String) : String := (segments path).headD ""

theorem Expr.segments_eq_cons (path : String) :
    segments path = firstSegment path :: (segments path).tail := by
  unfold firstSegment segments
  cases hpieces : Text.splitOn '.' path.toList with
  | nil => exact absurd hpieces (Text.splitOn_ne_nil '.' path.toList)
  | cons first rest => rfl

namespace RunInput

variable {input : RunInput} {scopes : List Scope} {path : String}

theorem root?_eq_none_iff {name : String} :
    input.root? name = none ↔ name ≠ "canvas" ∧ name ≠ "data" ∧ name ≠ "theme" := by
  unfold root?
  split <;> simp_all

theorem resolve_eq (input : RunInput) (scopes : List Scope) (path : String) :
    input.resolve scopes path =
      match (Scope.find? scopes (Expr.firstSegment path)).or
          (input.root? (Expr.firstSegment path)) with
      | some value => .ok (value.follow (Expr.segments path).tail)
      | none => .error (.unknownVariable path) := by
  unfold resolve
  rw [Expr.segments_eq_cons path]
  rfl

/-- A path that starts at an input reads it where no binding hides it. -/
theorem resolve_of_root? (hscopes : Scope.Proper scopes) {value : Json}
    (h : input.root? (Expr.firstSegment path) = some value) :
    input.resolve scopes path = .ok (value.follow (Expr.segments path).tail) := by
  have hfind : Scope.find? scopes (Expr.firstSegment path) = none := by
    rw [Scope.find?_eq_none_iff]
    intro hbound
    rw [root?_eq_none_iff.mpr (hscopes _ hbound).noInput] at h
    cases h
  rw [resolve_eq, hfind, Option.none_or, h]

theorem resolve_eq_error_iff {e : ExecutionError} :
    input.resolve scopes path = .error e ↔
      e = .unknownVariable path ∧ input.root? (Expr.firstSegment path) = none ∧
        ¬ Scope.Bound scopes (Expr.firstSegment path) := by
  rw [resolve_eq, ← Scope.find?_eq_none_iff]
  cases Scope.find? scopes (Expr.firstSegment path) with
  | some value => simp
  | none =>
      cases input.root? (Expr.firstSegment path) with
      | some value => simp
      | none => simp [eq_comm]

end RunInput

end SlideDeck
