import Mathlib.Algebra.GroupWithZero.Nat
import SlideDeck.Proofs.Render.Plan.Expressions

/-!
# Built values

Texts and lists are the only values that a program can make large. Every part is charged before
it is taken, so what has been built is within the limit at any time, by its exact size: the size
that is charged stops counting only where it is above the limit already.
-/

namespace SlideDeck

/-! ## Plans that keep an invariant -/

namespace Plan

variable {α σ : Type}

/-- What every step keeps holds of what has been fed, however early the feeding ends. -/
theorem Ensures.feed {inv : σ → Prop} {step : σ → Json → Except ExecutionError (ForInStep σ)}
    (hstep : ∀ built value next, inv built → step built value = .ok next → inv next.value)
    (below : Nat) (xs : List Expr) {built : σ} (h : inv built) :
    (feed below step built xs).Ensures inv := by
  induction xs generalizing built with
  | nil => exact .pure h
  | cons x rest ih =>
      refine (Ensures.trivial (value below x)).bind fun value _ => ?_
      have hnext : (done (step built value)).Ensures fun next => inv next.value :=
        fun next hok => hstep built value next h hok
      refine hnext.bind fun next hinv => ?_
      cases next with
      | yield built => exact ih hinv
      | done built => exact .pure hinv

/-- What a plan ensures holds of the result of carrying it out. -/
theorem Ensures.of_carryOut {q : α → Prop} {plan : Plan α} (h : plan.Ensures q)
    {evaluate : Nat → Expr → ExceptT ExecutionError (StateM σ) Json} {state : σ} {a : α}
    (hrun : ((plan.carryOut evaluate).run.run state).1 = .ok a) : q a := by
  induction plan generalizing state with
  | done outcome => exact h a hrun
  | operand below e rest ih =>
      change ((evaluate below e >>= fun value => (rest value).carryOut evaluate).run.run state).1 =
        .ok a at hrun
      rw [run_bind_run] at hrun
      rcases hvalue : (evaluate below e).run.run state with ⟨_ | value, after⟩
      · rw [hvalue] at hrun
        cases hrun
      · rw [hvalue] at hrun
        exact ih value (h value) hrun

end Plan

/-- What the plan of an expression ensures holds of its value. -/
theorem Expr.of_eval_eq_ok {input : RunInput} {scopes : List Scope} {depth steps : Nat} {e : Expr}
    {value : Json} {q : Json → Prop} (hplan : (e.plan input scopes).Ensures q)
    (h : ((e.eval input scopes depth).run.run steps).1 = .ok value) : q value := by
  rw [eval_eq, run_bind_run] at h
  rcases htick : (Eval.tick input.limits depth).run.run steps with ⟨_ | _, after⟩
  · rw [htick] at h
    cases h
  · rw [htick] at h
    exact hplan.of_carryOut h

/-! ## Steps that charge -/

theorem Eval.fits_eq_ok_iff {limits : ExecutionLimits} {size : Nat} :
    fits limits size = .ok () ↔ size ≤ limits.maxValueBytes := by
  unfold fits
  split
  next hover => exact iff_of_false nofun (Nat.not_le_of_lt hover)
  next hover => exact iff_of_true rfl (Nat.le_of_not_lt hover)

/-- An element is taken into a list just when the exact sizes up to it are within the limit. -/
theorem listStep_eq_ok_iff {limits : ExecutionLimits} {built : List Json × Nat} {value : Json}
    {next : ForInStep (List Json × Nat)} :
    listStep limits built value = .ok next ↔
      built.2 + value.byteSize ≤ limits.maxValueBytes ∧
        next = .yield (built.1 ++ [value], built.2 + value.byteSize) := by
  have hcapped := Json.cappedSize_cases limits.maxValueBytes value
  unfold listStep
  rw [bind_eq_ok_iff]
  constructor
  · rintro ⟨_, hfits, ⟨⟩⟩
    rw [Eval.fits_eq_ok_iff] at hfits
    -- within the limit the size that is charged is the exact one
    have hexact : value.cappedSize limits.maxValueBytes = value.byteSize := by omega
    rw [hexact] at hfits ⊢
    exact ⟨hfits, rfl⟩
  · rintro ⟨hfits, rfl⟩
    have hexact : value.cappedSize limits.maxValueBytes = value.byteSize := by omega
    rw [hexact]
    exact ⟨(), Eval.fits_eq_ok_iff.mpr hfits, rfl⟩

/-- A part is taken into a text just when the text with it is within the limit. -/
theorem concatStep_eq_ok_iff {limits : ExecutionLimits} {built : String} {value : Json}
    {next : ForInStep String} :
    concatStep limits built value = .ok next ↔
      ∃ part, textOf "concat" value = .ok part ∧
        (built ++ part).utf8ByteSize ≤ limits.maxValueBytes ∧ next = .yield (built ++ part) := by
  unfold concatStep
  simp only [bind_eq_ok_iff, ← String.utf8ByteSize_append]
  constructor
  · rintro ⟨part, htext, _, hfits, ⟨⟩⟩
    exact ⟨part, htext, Eval.fits_eq_ok_iff.mp hfits, rfl⟩
  · rintro ⟨part, htext, hfits, rfl⟩
    exact ⟨part, htext, (), Eval.fits_eq_ok_iff.mpr hfits, rfl⟩

/-- The bytes of some parts when every one of them has a separator. -/
def separatedSize (sep : String) (parts : List String) : Nat :=
  (parts.map fun part => part.utf8ByteSize + sep.utf8ByteSize).sum

/-- There is one separator less between parts than there are parts. -/
theorem utf8ByteSize_intercalate_le (sep : String) (parts : List String) :
    (sep.intercalate parts).utf8ByteSize ≤ separatedSize sep parts := by
  unfold separatedSize
  induction parts with
  | nil => exact Nat.zero_le _
  | cons part rest ih =>
      cases rest with
      | nil => simp
      | cons other more =>
          rw [String.intercalate_cons_cons, String.utf8ByteSize_append, String.utf8ByteSize_append,
            List.map_cons, List.sum_cons]
          omega

/-- What is joined has been charged with a separator for every part. -/
theorem joinStep_separated {limits : ExecutionLimits} {sep : String} {built : List String × Nat}
    {value : Json} {next : ForInStep (List String × Nat)}
    (hbuilt : separatedSize sep built.1 = built.2 ∧ built.2 ≤ limits.maxValueBytes)
    (h : joinStep limits sep built value = .ok next) :
    separatedSize sep next.value.1 = next.value.2 ∧ next.value.2 ≤ limits.maxValueBytes := by
  cases value with
  | null =>
      cases h
      exact hbuilt
  | bool _ | number _ | string _ | array _ | object _ =>
      obtain ⟨part, _, h⟩ := bind_eq_ok_iff.mp h
      split at h
      next =>
        cases h
        exact hbuilt
      next =>
        obtain ⟨_, hfits, ⟨⟩⟩ := bind_eq_ok_iff.mp h
        refine ⟨?_, Eval.fits_eq_ok_iff.mp hfits⟩
        simp [ForInStep.value, separatedSize, ← hbuilt.1]

/-! ## Values of expressions -/

/-- The value of an expression that builds a text or a list is within a number of bytes; a list
by the exact sizes of its elements. -/
def Expr.BuildsWithin (bytes : Nat) : Expr → Json → Prop
  | .concat _, value | .str _, value | .join _ _, value =>
    ∃ text, value = .string text ∧ text.utf8ByteSize ≤ bytes
  | .list _, value => ∃ items, value = .array items ∧ (items.map Json.byteSize).sum ≤ bytes
  | _, _ => True

theorem Expr.ensures_buildsWithin (input : RunInput) (scopes : List Scope) (e : Expr) :
    (e.plan input scopes).Ensures (e.BuildsWithin input.limits.maxValueBytes) := by
  cases e with
  | list xs =>
      have hfeed : (Plan.feed 0 (listStep input.limits) ([], 0) xs).Ensures fun built =>
          (built.1.map Json.byteSize).sum = built.2 ∧
            built.2 ≤ input.limits.maxValueBytes := by
        refine Plan.Ensures.feed ?_ 0 xs ⟨rfl, Nat.zero_le _⟩
        rintro built value next ⟨hsum, _⟩ hok
        obtain ⟨hfits, rfl⟩ := listStep_eq_ok_iff.mp hok
        exact ⟨by simp [ForInStep.value, hsum], hfits⟩
      refine hfeed.bind fun built ⟨hsum, hfits⟩ => .pure ⟨built.1, rfl, ?_⟩
      rwa [hsum]
  | concat xs =>
      have hfeed : (Plan.feed 0 (concatStep input.limits) "" xs).Ensures fun built =>
          built.utf8ByteSize ≤ input.limits.maxValueBytes := by
        refine Plan.Ensures.feed ?_ 0 xs (Nat.zero_le _)
        intro built value next _ hok
        obtain ⟨part, _, hfits, rfl⟩ := concatStep_eq_ok_iff.mp hok
        exact hfits
      exact hfeed.bind fun text hfits => .pure ⟨text, rfl, hfits⟩
  | str a =>
      refine (Plan.Ensures.trivial _).bind fun text _ => ?_
      have hfits : (Plan.done (Eval.fits input.limits text.utf8ByteSize)).Ensures fun _ =>
          text.utf8ByteSize ≤ input.limits.maxValueBytes :=
        fun _ hok => Eval.fits_eq_ok_iff.mp hok
      exact hfits.bind fun _ hfits => .pure ⟨text, rfl, hfits⟩
  | join sep xs =>
      refine (Plan.Ensures.trivial _).bind fun sep _ => ?_
      have hfeed : (Plan.feed 0 (joinStep input.limits sep) ([], 0) xs).Ensures fun built =>
          separatedSize sep built.1 = built.2 ∧ built.2 ≤ input.limits.maxValueBytes :=
        Plan.Ensures.feed (fun _ _ _ => joinStep_separated) 0 xs ⟨rfl, Nat.zero_le _⟩
      refine hfeed.bind fun built ⟨hsize, hfits⟩ => .pure ⟨_, rfl, ?_⟩
      exact Nat.le_trans (utf8ByteSize_intercalate_le sep built.1) (hsize ▸ hfits)
  | number _ | bool _ | string _ | var _ | arith _ _ _ | divOr _ _ _ | unary _ _ | extreme _ _
  | len _ | «at» _ _ | get _ _ | take _ _ | maxOf _ _ | eq _ _ | ne _ _ | order _ _ _ | not _
  | «exists» _ | logic _ _ | cond _ _ _ | default _ _ | contains _ _ =>
      exact Plan.Ensures.trivial _

/-- Whatever is bound, at whatever depth and after however many steps: the value of an
expression that builds a text or a list is within the limit. The size that is charged passes a
cap just when the exact size does, so no nested value gets by. -/
theorem Expr.buildsWithin_of_eval (input : RunInput) :
    (∀ (e : Expr) (scopes : List Scope) (depth steps : Nat) (value : Json),
      ((e.eval input scopes depth).run.run steps).1 = .ok value →
        e.BuildsWithin input.limits.maxValueBytes value) ∧
    ∀ (cap : Nat) (j : Json), j.cappedSize cap ≤ cap ↔ j.byteSize ≤ cap :=
  ⟨fun e scopes _ _ _ h => of_eval_eq_ok (e.ensures_buildsWithin input scopes) h,
    fun _ _ => Json.cappedSize_le_iff⟩

/-- A list of an empty list and a text of two characters. -/
def Expr.quarterList : Expr := .list [.list [], .concat [.string "Q", .string "4"]]

/-- The elements of the list have ten bytes, eight of them the empty list. It is built where ten
are allowed. Where nine are allowed the text is refused, and where seven are, the empty list. -/
theorem Expr.buildsWithin_of_eval_quarterList :
    let input bytes : RunInput :=
      ⟨{ ExecutionLimits.standard with maxValueBytes := bytes }, .standard, .null⟩
    let outcome bytes := ((quarterList.eval (input bytes) [] 1).run.run 1).1
    (outcome 10 = .ok (.array [.array [], .string "Q4"]) ∧
      quarterList.BuildsWithin 10 (.array [.array [], .string "Q4"])) ∧
    outcome 9 = .error (.valueBudget 9) ∧ outcome 7 = .error (.valueBudget 7) ∧
    ¬ (Json.array [.array []]).cappedSize 7 ≤ 7 := by
  intro input outcome
  have hbuilt : outcome 10 = .ok (.array [.array [], .string "Q4"]) := rfl
  have hexact : ¬ (Json.array [.array []]).byteSize ≤ 7 := by decide
  exact ⟨⟨hbuilt, (buildsWithin_of_eval (input 10)).1 _ _ _ _ _ hbuilt⟩, rfl, rfl,
    fun h => hexact (((buildsWithin_of_eval (input 7)).2 _ _).mp h)⟩

end SlideDeck
