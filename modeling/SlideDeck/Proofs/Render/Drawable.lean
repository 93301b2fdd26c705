import SlideDeck.Library.Closings
import SlideDeck.Proofs.Numeric.Binary64
import SlideDeck.Proofs.Render.Plan.Instructions

/-!
# Drawings that can be drawn

A number that a program computes is checked wherever it becomes a value, so whatever reaches
a frame, a font size or a width is a finite double. Extents and sizes are checked once more
before they are drawn with. Every operation of a drawing can therefore be drawn.
-/

namespace SlideDeck

/-! ## Colours -/

namespace Color

/-- The digits of a colour as it is written. -/
def hexDigits : List Char :=
  ['0', '1', '2', '3', '4', '5', '6', '7', '8', '9', 'A', 'B', 'C', 'D', 'E', 'F']

/-- Six hexadecimal digits, the letters among them in upper case. -/
structure IsHex (text : String) : Prop where
  length : text.length = 6
  digits : ∀ c ∈ text.toList, c ∈ hexDigits

theorem hexDigit_mem {n : Nat} (h : n < 16) : hexDigit n ∈ hexDigits := by
  have hall : ∀ n : Fin 16, hexDigit n ∈ hexDigits := by decide
  exact hall ⟨n, h⟩

theorem channelDigits_mem (v : UInt8) : ∀ c ∈ channelDigits v, c ∈ hexDigits := by
  have hbyte : v.toNat < 256 := v.toNat_lt
  unfold channelDigits
  simp only [List.forall_mem_cons, List.not_mem_nil, false_imp_iff, implies_true, and_true]
  exact ⟨hexDigit_mem (by omega), hexDigit_mem (by omega)⟩

theorem hexDigit_of_hexValue? {c : Char} {n : Nat} (h : Text.hexValue? c = some n) :
    n < 16 ∧ hexDigit n = c.toUpper := by
  have hall : ∀ k : Fin 128, ∀ n ∈ Text.hexValue? (Char.ofNat k),
      n < 16 ∧ hexDigit n = (Char.ofNat k).toUpper := by decide
  have hascii : c.toNat < 128 := by
    unfold Text.hexValue? at h
    simp only [Char.le_def, UInt32.le_iff_toNat_le] at h
    split at h
    next hdigit => exact Nat.lt_of_le_of_lt hdigit.2 (by decide)
    next =>
      split at h
      next hlower => exact Nat.lt_of_le_of_lt hlower.2 (by decide)
      next =>
        split at h
        next hupper => exact Nat.lt_of_le_of_lt hupper.2 (by decide)
        next => cases h
  have hdigit := hall ⟨c.toNat, hascii⟩
  rw [Char.ofNat_toNat] at hdigit
  exact hdigit n h

theorem channelDigits_of_channel? {high low : Char} {v : UInt8} (h : channel? high low = some v) :
    channelDigits v = [high.toUpper, low.toUpper] := by
  obtain ⟨a, ha, h⟩ := Option.bind_eq_some_iff.mp h
  obtain ⟨b, hb, h⟩ := Option.bind_eq_some_iff.mp h
  obtain rfl := Option.some.inj h
  obtain ⟨hahex, hadigit⟩ := hexDigit_of_hexValue? ha
  obtain ⟨hbhex, hbdigit⟩ := hexDigit_of_hexValue? hb
  have hvalue : (UInt8.ofNat (16 * a + b)).toNat = 16 * a + b := by
    rw [UInt8.toNat_ofNat', Nat.mod_eq_of_lt (by omega)]
  unfold channelDigits
  rw [hvalue, ← hadigit, ← hbdigit, show (16 * a + b) / 16 = a by omega,
    show (16 * a + b) % 16 = b by omega]

/-- A colour is written with the digits that it was read from, in upper case. -/
theorem toList_text_of_parse? {s : String} {c : Color} (h : parse? s = some c) :
    c.text.toList = ((Text.trimChars s.toList).dropWhile (· == '#')).map Char.toUpper := by
  unfold parse? at h
  split at h
  next hdigits =>
    obtain ⟨red, hred, h⟩ := Option.bind_eq_some_iff.mp h
    obtain ⟨green, hgreen, h⟩ := Option.bind_eq_some_iff.mp h
    obtain ⟨blue, hblue, h⟩ := Option.bind_eq_some_iff.mp h
    obtain rfl := Option.some.inj h
    unfold text
    rw [hdigits, String.toList_ofList, channelDigits_of_channel? hred,
      channelDigits_of_channel? hgreen, channelDigits_of_channel? hblue]
    rfl
  next => cases h

/-- Every colour is written with six digits. -/
theorem isHex_text (c : Color) : IsHex c.text := by
  constructor
  · unfold text
    rw [String.length_ofList]
    rfl
  · intro digit hdigit
    unfold text at hdigit
    rw [String.toList_ofList] at hdigit
    simp only [List.mem_append, or_assoc] at hdigit
    rcases hdigit with hred | hgreen | hblue
    · exact channelDigits_mem _ _ hred
    · exact channelDigits_mem _ _ hgreen
    · exact channelDigits_mem _ _ hblue

end Color

/-! ## Operations -/

/-- A frame of finite numbers whose extents are not negative. -/
structure Frame.Drawable (f : Frame) : Prop where
  x : f.x.isFinite = true
  y : f.y.isFinite = true
  w : f.w.isFinite = true ∧ 0 ≤ f.w
  h : f.h.isFinite = true ∧ 0 ≤ f.h

/-- A point of finite numbers. -/
structure Point.Drawable (p : Point) : Prop where
  x : p.x.isFinite = true
  y : p.y.isFinite = true

/-- A text in a font of the theme, with a size above zero. -/
structure TextBlock.Drawable (theme : Theme) (t : TextBlock) : Prop where
  frame : t.frame.Drawable
  fontFace : t.fontFace = theme.fonts.heading ∨ t.fontFace = theme.fonts.body
  fontSize : t.fontSize.isFinite = true ∧ 0 < t.fontSize
  color : Color.IsHex t.color.text

/-- A shape with a stroke that is no narrower than zero. -/
structure Shape.Drawable (s : Shape) : Prop where
  frame : s.frame.Drawable
  fill : ∀ c ∈ s.fill, Color.IsHex c.text
  stroke : ∀ c ∈ s.stroke, Color.IsHex c.text
  strokeWidth : s.strokeWidth.isFinite = true ∧ 0 ≤ s.strokeWidth

/-- A connector that is no narrower than zero. -/
structure Connector.Drawable (c : Connector) : Prop where
  source : c.source.Drawable
  target : c.target.Drawable
  color : Color.IsHex c.color.text
  width : c.width.isFinite = true ∧ 0 ≤ c.width

/-- An operation that can be drawn under a theme. -/
def DrawOp.Drawable (theme : Theme) : DrawOp → Prop
  | .text t => t.Drawable theme
  | .shape s => s.Drawable
  | .connector c => c.Drawable

/-! ## Plans of operations -/

theorem isFinite_of_numberOf {op : String} {value : Json} {x : Float}
    (h : numberOf op value = .ok x) : x.isFinite = true := by
  cases value with
  | number n =>
      cases h
      exact n.isFinite_toFloat
  | null | bool _ | string _ | array _ | object _ => cases h

namespace Plan

theorem ensures_number (below : Nat) (op : String) (e : Expr) :
    (number below op e).Ensures fun x => x.isFinite = true :=
  fun _ _ h => isFinite_of_numberOf h

theorem ensures_width (op : String) {absent : Float}
    (habsent : absent.isFinite = true ∧ 0 ≤ absent) (w : Option Expr) :
    (width op absent w).Ensures fun x => x.isFinite = true ∧ 0 ≤ x := by
  cases w with
  | none => exact .pure habsent
  | some e => exact (ensures_number 0 op e).bind fun x hx => .pure (Binary64.greatest_zero hx)

end Plan

theorem FrameExpr.ensures_plan (f : FrameExpr) : f.plan.Ensures Frame.Drawable := by
  refine (Plan.ensures_number 0 "x" f.x).bind fun x hx =>
    (Plan.ensures_number 0 "y" f.y).bind fun y hy =>
      (Plan.ensures_number 0 "w" f.w).bind fun w hw =>
        (Plan.ensures_number 0 "h" f.h).bind fun h hh => ?_
  by_cases hwidth : w < 0
  · simp only [if_pos hwidth]
    exact nofun
  · by_cases hheight : h < 0
    · simp only [if_neg hwidth, if_pos hheight]
      exact nofun
    · simp only [if_neg hwidth, if_neg hheight]
      have hw' : 0 ≤ w := Binary64.zero_le_of_not_lt hw hwidth
      have hh' : 0 ≤ h := Binary64.zero_le_of_not_lt hh hheight
      exact .pure ⟨hx, hy, ⟨hw, hw'⟩, ⟨hh, hh'⟩⟩

theorem PointExpr.ensures_plan (p : PointExpr) : p.plan.Ensures Point.Drawable :=
  (Plan.ensures_number 0 "connector" p.x).bind fun _ hx =>
    (Plan.ensures_number 0 "connector" p.y).bind fun _ hy => .pure ⟨hx, hy⟩

theorem TextSpec.ensures_plan (theme : Theme) (t : TextSpec) :
    (t.plan theme).Ensures (TextBlock.Drawable theme) := by
  refine (Plan.Ensures.trivial _).bind fun content _ =>
    t.frame.ensures_plan.bind fun frame hframe =>
      (Plan.ensures_number 0 "fontSize" t.fontSize).bind fun fontSize hfinite => ?_
  by_cases hsize : fontSize ≤ 0
  · simp only [if_pos hsize]
    exact nofun
  · simp only [if_neg hsize]
    have hpositive : 0 < fontSize := Binary64.zero_lt_of_not_le hfinite hsize
    refine (Plan.Ensures.trivial _).bind fun color _ =>
      .pure ⟨hframe, ?_, ⟨hfinite, hpositive⟩, Color.isHex_text _⟩
    cases t.face with
    | heading => exact .inl rfl
    | body => exact .inr rfl

theorem ShapeSpec.ensures_plan (s : ShapeSpec) : s.plan.Ensures Shape.Drawable := by
  have hone : (1 : Float).isFinite = true ∧ (0 : Float) ≤ 1 := ⟨rfl, rfl⟩
  exact s.frame.ensures_plan.bind fun _ hframe => (Plan.Ensures.trivial _).bind fun _ _ =>
    (Plan.Ensures.trivial _).bind fun _ _ => (Plan.ensures_width _ hone _).bind fun _ hwidth =>
      .pure ⟨hframe, fun c _ => c.isHex_text, fun c _ => c.isHex_text, hwidth⟩

theorem ConnectorSpec.ensures_plan (theme : Theme) (c : ConnectorSpec) :
    (c.plan theme).Ensures Connector.Drawable := by
  have hstandard : (1.5 : Float).isFinite = true ∧ (0 : Float) ≤ 1.5 := ⟨rfl, rfl⟩
  exact c.source.ensures_plan.bind fun _ hsource => c.target.ensures_plan.bind fun _ htarget =>
    (Plan.Ensures.trivial _).bind fun _ _ => (Plan.ensures_width _ hstandard _).bind
      fun _ hwidth => .pure ⟨hsource, htarget, Color.isHex_text _, hwidth⟩

/-! ## Runs -/

namespace Run

/-- A computation adds operations of one kind only to a drawing, however it ends. -/
def Adds {α : Type} (kind : DrawOp → Prop) (x : Run α) : Prop :=
  Leads (fun state => ∀ op ∈ state.ops, kind op) (fun state => ∀ op ∈ state.ops, kind op)
    (fun state => ∀ op ∈ state.ops, kind op) x

section Adds

variable {α β : Type} {kind : DrawOp → Prop}

theorem Adds.bind {x : Run α} {next : α → Run β} (h : Adds kind x)
    (hnext : ∀ a, Adds kind (next a)) : Adds kind (x >>= next) :=
  Leads.bind h hnext

/-- What draws nothing adds operations of no kind. -/
theorem adds_of_ops_eq {x : Run α} (h : ∀ state, (x.run.run state).2.ops = state.ops) :
    Adds kind x := by
  apply Leads.of_always
  intro state hops
  rwa [h state]

theorem adds_evaluate (make : List Scope → Eval α) : Adds kind (evaluate make) :=
  adds_of_ops_eq fun _ => rfl

theorem adds_bind (name : String) (value : Json) : Adds kind (bind name value) := by
  apply adds_of_ops_eq
  intro state
  obtain ⟨scopes, hscopes⟩ := exists_scopes_bind name value state
  rw [hscopes]

theorem adds_bindAll (bindings : List (String × Json)) : Adds kind (bindAll bindings) := by
  apply adds_of_ops_eq
  intro state
  obtain ⟨scopes, hscopes⟩ := exists_scopes_bindAll bindings state
  rw [hscopes]

theorem adds_emit (limits : ExecutionLimits) {op : DrawOp} (h : kind op) :
    Adds kind (emit limits op) := by
  intro state hops
  rw [emit_run]
  by_cases hfull : limits.maxDrawOps ≤ state.ops.length
  · rw [if_pos hfull]
    exact hops
  · rw [if_neg hfull]
    exact List.forall_mem_append.mpr ⟨hops, List.forall_mem_singleton.mpr h⟩

theorem Adds.inScope (bindings : List (String × Json)) {body : Run Unit} (h : Adds kind body) :
    Adds kind (inScope bindings body) := fun state hops =>
  ((adds_bindAll bindings).bind fun _ => h) { state with scopes := [] :: state.scopes } hops

theorem Adds.forEach (binding : String) (index : Option String) {body : Run Unit}
    (h : Adds kind body) (i : Nat) (items : List Json) :
    Adds kind (forEach binding index body i items) := by
  induction items generalizing i with
  | nil => exact adds_of_ops_eq fun _ => rfl
  | cons item rest ih => exact (h.inScope _).bind fun _ => ih (i + 1)

end Adds

variable (input : RunInput)

mutual

/-- An instruction adds operations only that can be drawn. -/
theorem adds_instruction (depth : Nat) (i : Instruction) :
    Adds (DrawOp.Drawable input.theme) (instruction input depth i) := by
  have hplan : (i.plan input).Ensures fun action => Adds (DrawOp.Drawable input.theme)
      (action.perform input.limits (block input (depth + 1))) := by
    cases i with
    | bind name value => exact (Plan.Ensures.trivial _).bind fun _ _ => .pure (adds_bind _ _)
    | text t => exact (t.ensures_plan input.theme).bind fun _ ht => .pure (adds_emit _ ht)
    | shape s => exact s.ensures_plan.bind fun _ hs => .pure (adds_emit _ hs)
    | connector c => exact (c.ensures_plan input.theme).bind fun _ hc => .pure (adds_emit _ hc)
    | branch c a b =>
        refine (Plan.Ensures.trivial _).bind fun value _ => .pure ?_
        cases value.truthy with
        | true => exact (adds_block (depth + 1) a).inScope []
        | false => exact (adds_block (depth + 1) b).inScope []
    | each source binding index body =>
        exact (Plan.Ensures.trivial _).bind fun _ _ => (Plan.Ensures.trivial _).bind
          fun items _ => .pure ((adds_block (depth + 1) body).forEach binding index 0 items)
  rw [instruction_eq]
  exact (adds_evaluate _).bind fun _ => Leads.carryOut_bind (fun _ hops => hops)
    (fun _ _ => adds_evaluate _) hplan fun _ hperform => hperform

theorem adds_block (depth : Nat) (body : List Instruction) :
    Adds (DrawOp.Drawable input.theme) (block input depth body) := by
  cases body with
  | nil => exact adds_of_ops_eq fun _ => rfl
  | cons i rest => exact (adds_instruction depth i).bind fun _ => adds_block depth rest

end

end Run

namespace RenderProgram

/-- Every operation of a drawing can be drawn: its numbers are finite, its extents and widths
are not negative, its texts have a size above zero and a font of the theme, and its colours
are written with six digits. -/
theorem drawable_of_execute (p : RenderProgram) (input : RunInput) {ops : List DrawOp}
    (h : p.execute input = .ok ops) : ∀ op ∈ ops, op.Drawable input.theme := by
  have hadded : ∀ op ∈ (p.run input).2.ops, op.Drawable input.theme :=
    Leads.always (Run.adds_block input 0 p.body) (fun _ hops => hops) nofun
  rwa [ops_of_execute h] at hadded

/-- A closing slide. -/
theorem drawable_of_execute_closing :
    ∃ ops, Library.thankYou.renderProgram.execute
        ⟨.standard, .standard, .object [("message", .string "Goodbye")]⟩ = .ok ops ∧
      ops ≠ [] ∧ ∀ op ∈ ops, op.Drawable .standard := by
  have hdrawn : ((Library.thankYou.renderProgram.execute
      ⟨.standard, .standard, .object [("message", .string "Goodbye")]⟩).toOption.any
        fun ops => !ops.isEmpty) = true := by
    decide +kernel
  cases hrun : Library.thankYou.renderProgram.execute
      ⟨.standard, .standard, .object [("message", .string "Goodbye")]⟩ with
  | error e =>
      rw [hrun] at hdrawn
      cases hdrawn
  | ok ops =>
      rw [hrun] at hdrawn
      refine ⟨ops, rfl, ?_, drawable_of_execute _ _ hrun⟩
      rintro rfl
      cases hdrawn

end RenderProgram

end SlideDeck
