import SlideDeck.Program.Codec
import SlideDeck.Proofs.Json.Records
import SlideDeck.Proofs.Numeric.Binary64
import SlideDeck.Proofs.Program.Operands

/-!
# Expressions that have been written

The form of a call names the operation and holds the forms of the operands, so an expression
comes back when its operands do. A number has a form of its own only when it is finite, and all
numbers of an expression that has been decoded are finite.
-/

namespace SlideDeck

open Json (Draft Decoder)

namespace Expr

theorem toJsonAll_eq_map (xs : List Expr) : toJsonAll xs = xs.map toJson := by
  induction xs with
  | nil => rfl
  | cons x rest ih => rw [toJsonAll, ih, List.map_cons]

/-! ## Decoding what has been written -/

section Operands

variable {α β γ δ : Type} {x : Option α} {y : Option β} {z : Option γ} {a : α} {b : β} {c : γ}

theorem pair_eq_some (make : α → β → δ) (hx : x = some a) (hy : y = some b) :
    (do return make (← x) (← y)) = some (make a b) := by
  subst hx hy
  rfl

theorem triple_eq_some (make : α → β → γ → δ) (hx : x = some a) (hy : y = some b)
    (hz : z = some c) : (do return make (← x) (← y) (← z)) = some (make a b c) := by
  subst hx hy hz
  rfl

end Operands

theorem list_toJsonAll {expr : Decoder Expr} {xs : List Expr}
    (h : ∀ x ∈ xs, expr (Draft.ofJson x.toJson) = some x) :
    Decoder.list expr (Draft.ofJson (.array (toJsonAll xs))) = some xs := by
  rw [toJsonAll_eq_map]
  exact Json.list_map h

/-- A finite number comes back. -/
theorem decodeNested_number {x : Float} (h : x.isFinite = true) (depth : Nat) :
    decodeNested depth (Draft.ofJson (number x).toJson) = some (number x) := by
  rw [toJson, Json.ofFloat, Json.Number.ofFloat?, dif_pos h]
  cases depth <;> rfl

/-- An expression comes back when its operands do, one level below. -/
theorem decodeNested_succ {depth : Nat} {e : Expr}
    (hfinite : ∀ x, e = .number x → x.isFinite = true)
    (hoperands : ∀ a ∈ e.operands, decodeNested depth (Draft.ofJson a.toJson) = some a) :
    decodeNested (depth + 1) (Draft.ofJson e.toJson) = some e := by
  cases e with
  | number x => exact decodeNested_number (hfinite x rfl) _
  | bool _ | string _ | var _ => rfl
  | arith op a b | order op a b =>
      obtain ⟨ha, hb, _⟩ := List.forall_mem_cons.mp hoperands |>.imp_right List.forall_mem_cons.mp
      cases op <;> exact pair_eq_some _ ha hb
  | «at» a b | take a b | eq a b | ne a b | default a b | contains a b =>
      obtain ⟨ha, hb, _⟩ := List.forall_mem_cons.mp hoperands |>.imp_right List.forall_mem_cons.mp
      exact pair_eq_some _ ha hb
  | divOr a b c | cond a b c =>
      obtain ⟨ha, hb, hc⟩ := List.forall_mem_cons.mp hoperands |>.imp_right List.forall_mem_cons.mp
      exact triple_eq_some _ ha hb (hc c (List.mem_singleton_self c))
  | unary op a =>
      have ha := hoperands a (List.mem_singleton_self a)
      cases op <;> exact congrArg (Option.map _) ha
  | len a | not a | «exists» a | str a =>
      have ha := hoperands a (List.mem_singleton_self a)
      exact congrArg (Option.map _) ha
  | get a key | maxOf a key =>
      have ha := hoperands a (List.mem_singleton_self a)
      exact pair_eq_some _ ha (rfl : some key = some key)
  | extreme op xs | logic op xs =>
      have hxs := list_toJsonAll hoperands
      cases op <;> exact congrArg (Option.map _) hxs
  | list xs | concat xs => exact congrArg (Option.map _) (list_toJsonAll hoperands)
  | join sep xs =>
      obtain ⟨hsep, hxs⟩ := List.forall_mem_cons.mp hoperands
      exact pair_eq_some _ hsep (list_toJsonAll hxs)

/-- The form of an operand nests less deep. -/
theorem nesting_lt_of_mem_operands {a e : Expr} (h : a ∈ e.operands) :
    (Draft.ofJson a.toJson).nesting < (Draft.ofJson e.toJson).nesting := by
  have hcall : ∀ (name : String) (operands : Json),
      (Draft.ofJson operands).nesting < (Draft.ofJson (call name operands)).nesting :=
    fun name operands => Json.nesting_lt_object (m := (name, operands)) List.mem_cons_self
  have hitems : ∀ {xs : List Expr}, a ∈ xs →
      (Draft.ofJson a.toJson).nesting < (Draft.ofJson (.array (toJsonAll xs))).nesting := by
    intro xs ha
    rw [toJsonAll_eq_map]
    exact Json.nesting_lt_array (List.mem_map_of_mem ha)
  cases e with
  | number _ | bool _ | string _ | var _ => cases h
  | arith _ _ _ | «at» _ _ | take _ _ | eq _ _ | ne _ _ | order _ _ _ | default _ _
  | contains _ _ | divOr _ _ _ | cond _ _ _ | extreme _ _ | list _ | logic _ _ | concat _ =>
      exact (hitems h).trans (hcall _ _)
  | unary _ _ | len _ | not _ | «exists» _ | str _ =>
      obtain rfl := List.mem_singleton.mp h
      exact hcall _ _
  | get _ _ | maxOf _ _ =>
      obtain rfl := List.mem_singleton.mp h
      exact (Json.nesting_lt_array List.mem_cons_self).trans (hcall _ _)
  | join sep xs =>
      refine lt_trans ?_ (hcall _ _)
      rcases List.mem_cons.mp h with rfl | hxs
      · exact Json.nesting_lt_array List.mem_cons_self
      · exact (hitems hxs).trans
          (Json.nesting_lt_array (List.mem_cons_of_mem _ List.mem_cons_self))

/-- An expression of finite literals comes back wherever there is room for its nesting. -/
theorem decodeNested_toJson (e : Expr) : ∀ {depth : Nat}, e.HasFiniteLiterals →
    (Draft.ofJson e.toJson).nesting ≤ depth →
    decodeNested depth (Draft.ofJson e.toJson) = some e := by
  induction e using operandInduction with
  | step e ih =>
      intro depth hfinite hdepth
      obtain ⟨hself, hoperands⟩ := hasFiniteLiterals_iff.mp hfinite
      cases depth with
      | succ depth =>
          refine decodeNested_succ hself fun a ha => ih a ha (hoperands a ha) ?_
          have hless := nesting_lt_of_mem_operands ha
          omega
      | zero =>
          -- only literals do not nest
          cases e with
          | number x => exact decodeNested_number (hself x rfl) 0
          | bool _ | string _ => rfl
          | var _ | arith _ _ _ | divOr _ _ _ | unary _ _ | extreme _ _ | len _ | «at» _ _
          | get _ _ | take _ _ | maxOf _ _ | list _ | eq _ _ | ne _ _ | order _ _ _ | not _
          | «exists» _ | logic _ _ | cond _ _ _ | default _ _ | concat _ | str _ | contains _ _
          | join _ _ => exact absurd hdepth (Nat.not_succ_le_zero _)

/-- An expression of finite literals comes back. -/
theorem decode_toJson {e : Expr} (h : e.HasFiniteLiterals) :
    decode (Draft.ofJson e.toJson) = some e :=
  decodeNested_toJson e h le_rfl

/-- The form of an expression is never null where its literals are finite. -/
theorem toJson_ne_null {e : Expr} (h : e.HasFiniteLiterals) : e.toJson ≠ .null := by
  intro hnull
  have hdecode := decode_toJson h
  rw [hnull] at hdecode
  cases hdecode

theorem isNormal_call {name : String} {operands : Json} (h : operands.IsNormal) :
    (call name operands).IsNormal :=
  ⟨List.pairwise_singleton _ _, h, trivial⟩

/-- The form of an expression is in normal form. -/
theorem isNormal_toJson (e : Expr) : e.toJson.IsNormal := by
  induction e using operandInduction with
  | step e ih =>
      have hitems : ∀ {xs : List Expr}, xs ⊆ e.operands → (Json.array (toJsonAll xs)).IsNormal := by
        intro xs hxs
        rw [toJsonAll_eq_map]
        exact Json.isNormal_array_map fun x hx => ih x (hxs hx)
      cases e with
      | number x => exact Json.isNormal_ofFloat x
      | bool _ | string _ => exact trivial
      | var path => exact isNormal_call trivial
      | arith _ _ _ | divOr _ _ _ | «at» _ _ | take _ _ | eq _ _ | ne _ _ | order _ _ _ | cond _ _ _
      | default _ _ | contains _ _ | extreme _ _ | list _ | logic _ _ | concat _ =>
          exact isNormal_call (hitems (List.Subset.refl _))
      | unary _ a | len a | not a | «exists» a | str a =>
          exact isNormal_call (ih a (List.mem_singleton_self a))
      | get a key | maxOf a key =>
          exact isNormal_call ⟨ih a (List.mem_singleton_self a), trivial, trivial⟩
      | join sep xs =>
          exact isNormal_call
            ⟨ih sep List.mem_cons_self, hitems (List.subset_cons_self sep xs), trivial⟩

/-! ## What has been decoded -/

/-- An expression is a call whose operands have been decoded. -/
def IsDecodedCall (expr : Decoder Expr) (e : Expr) : Prop :=
  (∀ x, e ≠ .number x) ∧ ∀ a ∈ e.operands, ∃ d, expr d = some a

section Decoded

variable {expr : Decoder Expr} {d : Draft} {e : Expr}

theorem isDecodedCall_one {make : Expr → Expr} (hnumber : ∀ a x, make a ≠ .number x)
    (hoperands : ∀ a, (make a).operands = [a]) (h : (expr d).map make = some e) :
    IsDecodedCall expr e := by
  obtain ⟨a, ha, rfl⟩ := Option.map_eq_some_iff.mp h
  refine ⟨hnumber a, ?_⟩
  rw [hoperands]
  exact List.forall_mem_singleton.mpr ⟨d, ha⟩

theorem isDecodedCall_all {make : List Expr → Expr} (hnumber : ∀ xs x, make xs ≠ .number x)
    (hoperands : ∀ xs, (make xs).operands = xs) (h : (Decoder.list expr d).map make = some e) :
    IsDecodedCall expr e := by
  obtain ⟨xs, hxs, rfl⟩ := Option.map_eq_some_iff.mp h
  refine ⟨hnumber xs, ?_⟩
  rw [hoperands]
  exact fun a ha => Json.exists_of_mem_list hxs ha

theorem isDecodedCall_pair {make : Expr → Expr → Expr} (hnumber : ∀ a b x, make a b ≠ .number x)
    (hoperands : ∀ a b, (make a b).operands = [a, b])
    (h : (match d with
      | .array [a, b] => do return make (← expr a) (← expr b)
      | _ => none) = some e) : IsDecodedCall expr e := by
  split at h
  next first second =>
    simp only [Option.bind_eq_bind, Option.bind_eq_some_iff] at h
    obtain ⟨a, ha, b, hb, ⟨⟩⟩ := h
    refine ⟨hnumber a b, ?_⟩
    rw [hoperands]
    exact List.forall_mem_cons.mpr ⟨⟨first, ha⟩, List.forall_mem_singleton.mpr ⟨second, hb⟩⟩
  next => cases h

theorem isDecodedCall_triple {make : Expr → Expr → Expr → Expr}
    (hnumber : ∀ a b c x, make a b c ≠ .number x)
    (hoperands : ∀ a b c, (make a b c).operands = [a, b, c])
    (h : (match d with
      | .array [a, b, c] => do return make (← expr a) (← expr b) (← expr c)
      | _ => none) = some e) : IsDecodedCall expr e := by
  split at h
  next first second third =>
    simp only [Option.bind_eq_bind, Option.bind_eq_some_iff] at h
    obtain ⟨a, ha, b, hb, c, hc, ⟨⟩⟩ := h
    refine ⟨hnumber a b c, ?_⟩
    rw [hoperands]
    exact List.forall_mem_cons.mpr ⟨⟨first, ha⟩, List.forall_mem_cons.mpr
      ⟨⟨second, hb⟩, List.forall_mem_singleton.mpr ⟨third, hc⟩⟩⟩
  next => cases h

theorem isDecodedCall_keyed {make : Expr → String → Expr}
    (hnumber : ∀ a key x, make a key ≠ .number x) (hoperands : ∀ a key, (make a key).operands = [a])
    (h : (match d with
      | .array [a, .string key] => do return make (← expr a) key
      | _ => none) = some e) : IsDecodedCall expr e := by
  split at h
  next first key =>
    simp only [Option.bind_eq_bind, Option.bind_eq_some_iff] at h
    obtain ⟨a, ha, ⟨⟩⟩ := h
    refine ⟨hnumber a key, ?_⟩
    rw [hoperands]
    exact List.forall_mem_singleton.mpr ⟨first, ha⟩
  next => cases h

theorem isDecodedCall_join
    (h : (match d with
      | .array [sep, xs] => do return .join (← expr sep) (← Decoder.list expr xs)
      | _ => none) = some e) : IsDecodedCall expr e := by
  split at h
  next first second =>
    simp only [Option.bind_eq_bind, Option.bind_eq_some_iff] at h
    obtain ⟨sep, hsep, xs, hxs, ⟨⟩⟩ := h
    exact ⟨fun x => Expr.noConfusion, List.forall_mem_cons.mpr
      ⟨⟨first, hsep⟩, fun a ha => Json.exists_of_mem_list hxs ha⟩⟩
  next => cases h

/-- What `decodeCall` gives is a call whose operands have been decoded. -/
theorem isDecodedCall_of_decodeCall {name : String} (h : decodeCall expr name d = some e) :
    IsDecodedCall expr e := by
  unfold decodeCall at h
  dsimp only at h
  split at h
  next =>
    obtain ⟨path, _, rfl⟩ := Option.map_eq_some_iff.mp h
    exact ⟨fun x => Expr.noConfusion, List.forall_mem_nil _⟩
  -- the operations in the order in which they are listed
  next => exact isDecodedCall_triple (by simp) (fun _ _ _ => rfl) h
  next => exact isDecodedCall_one (by simp) (fun _ => rfl) h
  next => exact isDecodedCall_pair (by simp) (fun _ _ => rfl) h
  next => exact isDecodedCall_keyed (by simp) (fun _ _ => rfl) h
  next => exact isDecodedCall_pair (by simp) (fun _ _ => rfl) h
  next => exact isDecodedCall_keyed (by simp) (fun _ _ => rfl) h
  next => exact isDecodedCall_all (by simp) (fun _ => rfl) h
  next => exact isDecodedCall_pair (by simp) (fun _ _ => rfl) h
  next => exact isDecodedCall_pair (by simp) (fun _ _ => rfl) h
  next => exact isDecodedCall_one (by simp) (fun _ => rfl) h
  next => exact isDecodedCall_one (by simp) (fun _ => rfl) h
  next => exact isDecodedCall_triple (by simp) (fun _ _ _ => rfl) h
  next => exact isDecodedCall_pair (by simp) (fun _ _ => rfl) h
  next => exact isDecodedCall_all (by simp) (fun _ => rfl) h
  next => exact isDecodedCall_one (by simp) (fun _ => rfl) h
  next => exact isDecodedCall_pair (by simp) (fun _ _ => rfl) h
  next => exact isDecodedCall_join h
  next =>
    split at h
    next => exact isDecodedCall_pair (by simp) (fun _ _ => rfl) h
    next => exact isDecodedCall_one (by simp) (fun _ => rfl) h
    next => exact isDecodedCall_all (by simp) (fun _ => rfl) h
    next => exact isDecodedCall_pair (by simp) (fun _ _ => rfl) h
    next => exact isDecodedCall_all (by simp) (fun _ => rfl) h
    next => cases h

end Decoded

/-- The literals of an expression that has been decoded are finite. -/
theorem hasFiniteLiterals_of_decodeNested {depth : Nat} {d : Draft} {e : Expr}
    (h : decodeNested depth d = some e) : e.HasFiniteLiterals := by
  have hliteral : ∀ n : Json.Number, (number n.toFloat).HasFiniteLiterals :=
    fun n x hx => List.mem_singleton.mp hx ▸ n.isFinite_toFloat
  induction depth generalizing d e with
  | zero =>
      cases d with
      | number n =>
          cases h
          exact hliteral n
      | bool _ | string _ =>
          cases h
          exact nofun
      | null | array _ | object _ | unreadable => simp [decodeNested] at h
  | succ depth ih =>
      unfold decodeNested at h
      split at h
      next n =>
        cases h
        exact hliteral n
      next =>
        cases h
        exact nofun
      next =>
        cases h
        exact nofun
      next heq =>
        cases heq
        obtain ⟨hnumber, hoperands⟩ := isDecodedCall_of_decodeCall h
        refine hasFiniteLiterals_iff.mpr ⟨fun x hx => absurd hx (hnumber x), fun a ha => ?_⟩
        obtain ⟨operand, hdecode⟩ := hoperands a ha
        exact ih hdecode
      next => cases h

theorem hasFiniteLiterals_of_decode {d : Draft} {e : Expr} (h : decode d = some e) :
    e.HasFiniteLiterals :=
  hasFiniteLiterals_of_decodeNested h

end Expr

end SlideDeck
