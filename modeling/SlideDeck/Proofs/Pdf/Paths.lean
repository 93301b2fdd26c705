import SlideDeck.Proofs.Pdf.Pages

/-!
# Paths of a page

A path is open from the operator that begins it to the one that paints it. While it is open there
should be operators that construct it and no others. The background, connectors and arrow heads are
painted in this way: their colours are set before. The colours of a shape are set behind its path,
so the paths of a page are unbroken just when no shape of it has a colour.
-/

namespace SlideDeck.Pdf

namespace Operator

/-- The operators that begin a path. -/
def begins : Operator → Bool
  | .moveTo .. | .rectangle .. => true
  | _ => false

variable {op : Operator}

theorem constructs_of_begins (h : op.begins = true) : op.constructs = true := by
  cases op <;> simp_all [begins, constructs]

theorem not_paints_of_constructs (h : op.constructs = true) : op.paints = false :=
  (of_isInPath (isInPath_of_constructs h)).2.2.2

end Operator

/-! ## Open paths -/

/-- Whether a path is open behind an operator. -/
def pathStep (isOpen : Bool) (op : Operator) : Bool := (isOpen || op.begins) && !op.paints

/-- A path has been begun and has not been painted yet. -/
def pathOpen (ops : List Operator) : Bool := ops.foldl pathStep false

/-- Whatever stands while a path is open is as `P` says, by the operator and those behind it. -/
def InPaths (P : Operator → List Operator → Prop) (ops : List Operator) : Prop :=
  ∀ front op back, ops = front ++ op :: back → pathOpen front = true → P op back

/-- While a path is open, it is constructed until it is painted. -/
def Unbroken : List Operator → Prop :=
  InPaths fun op _ => op.constructs = true ∨ op.paints = true

variable {P : Operator → List Operator → Prop} {ops more : List Operator} {op : Operator}

theorem pathOpen_append (h : pathOpen ops = false) : pathOpen (ops ++ more) = pathOpen more := by
  unfold pathOpen at h ⊢
  rw [List.foldl_append, h]

theorem pathOpen_of_paints (ops : List Operator) (h : op.paints = true) :
    pathOpen (ops ++ [op]) = false := by
  simp [pathOpen, pathStep, h]

theorem pathOpen_of_not_begins (h : ∀ op ∈ ops, op.begins = false) : pathOpen ops = false := by
  induction ops with
  | nil => rfl
  | cons op rest ih =>
      obtain ⟨hop, hrest⟩ := List.forall_mem_cons.mp h
      have hclosed : pathOpen [op] = false := by simp [pathOpen, pathStep, hop]
      rw [← List.singleton_append, pathOpen_append hclosed]
      exact ih hrest

theorem foldl_pathStep_of_constructs (h : ∀ op ∈ ops, op.constructs = true) :
    ops.foldl pathStep true = true := by
  induction ops with
  | nil => rfl
  | cons op rest ih =>
      obtain ⟨hop, hrest⟩ := List.forall_mem_cons.mp h
      rw [List.foldl_cons, pathStep, Operator.not_paints_of_constructs hop]
      exact ih hrest

/-- A path that is begun stays open while it is constructed. -/
theorem pathOpen_of_constructs {start : Operator} (hstart : start.begins = true)
    (h : ∀ op ∈ ops, op.constructs = true) : pathOpen (start :: ops) = true := by
  have hpaints := Operator.not_paints_of_constructs (Operator.constructs_of_begins hstart)
  rw [pathOpen, List.foldl_cons, pathStep, hstart, hpaints]
  exact foldl_pathStep_of_constructs h

/-! ## Shapes -/

/-- The path of a shape is begun and constructed. -/
theorem exists_begun_shapePath (kind : ShapeKind) (left top width height : Float) :
    ∃ start rest, shapePath kind left top width height = start :: rest ∧
      start.begins = true ∧ ∀ op ∈ rest, op.constructs = true := by
  cases kind <;> refine ⟨_, _, rfl, rfl, ?_⟩ <;> simp [Operator.constructs]

theorem constructs_of_mem_shapePath {kind : ShapeKind} {left top width height : Float}
    (hop : op ∈ shapePath kind left top width height) : op.constructs = true := by
  obtain ⟨start, rest, hpath, hstart, hrest⟩ := exists_begun_shapePath kind left top width height
  rw [hpath] at hop
  rcases List.mem_cons.mp hop with rfl | hop
  · exact Operator.constructs_of_begins hstart
  · exact hrest op hop

theorem isPlain_of_mem_shapeColors {fill stroke : Option Color} {width : Float}
    (hop : op ∈ shapeColors fill stroke width) : op.isPlain = true := by
  rcases List.mem_append.mp hop with hop | hop
  · cases fill <;> simp_all [Operator.isPlain]
  · cases stroke <;> simp_all
    rcases hop with rfl | rfl <;> rfl

/-- A shape sets no colours just when it has none. -/
theorem shapeColors_eq_nil_iff {s : Shape} :
    shapeColors (shapeFill s) (shapeStroke s) s.strokeWidth = [] ↔
      s.fill = none ∧ s.stroke = none := by
  unfold shapeColors shapeFill shapeStroke
  cases s.kind <;> cases s.fill <;> cases s.stroke <;> simp

/-- An operator is one of those that set the colours of a shape. Behind it stand the others that
are left, and then the painting. -/
def Colors (s : Shape) (op : Operator) (back : List Operator) : Prop :=
  ∃ before behind rest,
    shapeColors (shapeFill s) (shapeStroke s) s.strokeWidth = before ++ op :: behind ∧
      back = behind ++ paintOperator (shapeFill s) (shapeStroke s) :: rest

/-- An operator constructs or paints a path, or sets a colour of a shape of a drawing. -/
def ConstructsOrColors (drawing : List DrawOp) (op : Operator) (back : List Operator) : Prop :=
  op.constructs = true ∨ op.paints = true ∨ ∃ s, .shape s ∈ drawing ∧ Colors s op back

theorem ConstructsOrColors.append {drawing : List DrawOp} {back : List Operator}
    (h : ConstructsOrColors drawing op back) (more : List Operator) :
    ConstructsOrColors drawing op (back ++ more) := by
  rcases h with hop | hop | ⟨s, hs, before, behind, rest, hcolors, rfl⟩
  · exact .inl hop
  · exact .inr (.inl hop)
  · exact .inr (.inr ⟨s, hs, before, behind, rest ++ more, hcolors, by simp⟩)

/-! ## Operators in a row -/

/-- Operators that leave no path open. In their paths stands nothing but what constructs them, and
the colours of the shapes of a drawing. -/
structure ClosesPaths (drawing : List DrawOp) (ops : List Operator) : Prop where
  closed : pathOpen ops = false
  inPaths : InPaths (ConstructsOrColors drawing) ops

namespace ClosesPaths

variable {drawing : List DrawOp} {paint : Operator}

/-- Where no path is begun, nothing stands in one. -/
theorem of_not_begins (h : ∀ op ∈ ops, op.begins = false) : ClosesPaths drawing ops := by
  refine ⟨pathOpen_of_not_begins h, fun front op back hsplit hopen => ?_⟩
  have hfront : pathOpen front = false :=
    pathOpen_of_not_begins fun o ho => h o (by simp [hsplit, ho])
  rw [hfront] at hopen
  cases hopen

theorem nil : ClosesPaths drawing [] := of_not_begins (List.forall_mem_nil _)

/-- What is only constructed and painted is a path without a break. -/
theorem of_constructs (hpaint : paint.paints = true) (h : ∀ op ∈ ops, op.constructs = true) :
    ClosesPaths drawing (ops ++ [paint]) := by
  refine ⟨pathOpen_of_paints ops hpaint, fun front op back hsplit _ => ?_⟩
  have hop : op ∈ ops ++ [paint] := by simp [hsplit]
  rcases List.mem_append.mp hop with hop | hop
  · exact .inl (h op hop)
  · exact .inr (.inl (by rwa [List.mem_singleton.mp hop]))

theorem append (h : ClosesPaths drawing ops) (hmore : ClosesPaths drawing more) :
    ClosesPaths drawing (ops ++ more) := by
  refine ⟨(pathOpen_append h.closed).trans hmore.closed, fun front op back hsplit hopen => ?_⟩
  rcases append_eq_append_cons hsplit with ⟨rest, hops, rfl⟩ | ⟨rest, hrest, rfl⟩
  · exact (h.inPaths front op rest hops hopen).append more
  · rw [pathOpen_append h.closed] at hopen
    exact hmore.inPaths rest op back hrest hopen

theorem group (h : ClosesPaths drawing ops) : ClosesPaths drawing (group ops) := by
  have hsave : ClosesPaths drawing [.save] := of_not_begins (by simp [Operator.begins])
  have hrestore : ClosesPaths drawing [.restore] := of_not_begins (by simp [Operator.begins])
  exact hsave.append (h.append hrestore)

theorem flatMap {α : Type} {f : α → List Operator} {xs : List α}
    (h : ∀ x ∈ xs, ClosesPaths drawing (f x)) : ClosesPaths drawing (xs.flatMap f) := by
  induction xs with
  | nil => exact nil
  | cons x rest ih =>
      obtain ⟨hx, hrest⟩ := List.forall_mem_cons.mp h
      exact hx.append (ih hrest)

/-! ## Painting -/

theorem paintShape {s : Shape} (hs : .shape s ∈ drawing) (height : Float) :
    ClosesPaths drawing (paintShape height s) := by
  have hpaint := paints_paintOperator (shapeFill s) (shapeStroke s)
  refine ⟨pathOpen_of_paints _ hpaint, fun front op back hsplit _ => ?_⟩
  rw [Pdf.paintShape, List.append_assoc] at hsplit
  rcases append_eq_append_cons hsplit with ⟨rest, hpath, _⟩ | ⟨rest, hbehind, _⟩
  · exact .inl (constructs_of_mem_shapePath (by rw [hpath]; simp))
  · rcases append_eq_append_cons hbehind with ⟨behind, hcolors, hback⟩ | ⟨_, hlast, _⟩
    · exact .inr (.inr ⟨s, hs, rest, behind, [], hcolors, hback⟩)
    · have hop : op ∈ [paintOperator (shapeFill s) (shapeStroke s)] := by simp [hlast]
      exact .inr (.inl (by rwa [List.mem_singleton.mp hop]))

theorem paintBackground (width height : Float) (c : Color) :
    ClosesPaths drawing (paintBackground width height c) := by
  have hcolor : ClosesPaths drawing [.fillColor c] := of_not_begins (by simp [Operator.begins])
  have hpath : ClosesPaths drawing ([.rectangle 0 0 width height] ++ [.fill]) :=
    of_constructs rfl (by simp [Operator.constructs])
  exact (hcolor.append hpath).group

theorem arrowHead (tail tip : Point) (width : Float) :
    ClosesPaths drawing (arrowHead tail tip width) := by
  unfold Pdf.arrowHead
  dsimp only
  split
  next => exact nil
  next =>
    change ClosesPaths drawing ([.moveTo _ _, .lineTo _ _, .lineTo _ _, .closePath] ++ [.fill])
    exact of_constructs rfl (by simp [Operator.constructs])

theorem arrowHeads (head : ArrowHead) (source target : Point) (width : Float) :
    ClosesPaths drawing (arrowHeads head source target width) := by
  cases head with
  | none => exact nil
  | «end» => exact arrowHead source target width
  | both => exact (arrowHead source target width).append (arrowHead target source width)

theorem paintConnector (height : Float) (c : Connector) :
    ClosesPaths drawing (paintConnector height c) := by
  have hcolors : ClosesPaths drawing
      [.strokeColor c.color, .fillColor c.color, .lineWidth c.width] :=
    of_not_begins (by simp [Operator.begins])
  have hline (x₁ y₁ x₂ y₂ : Float) :
      ClosesPaths drawing ([.moveTo x₁ y₁, .lineTo x₂ y₂] ++ [.stroke]) :=
    of_constructs rfl (by simp [Operator.constructs])
  exact (hcolors.append (hline ..)).append (arrowHeads c.head ⟨_, _⟩ ⟨_, _⟩ c.width)

theorem paintText (height : Float) (b : TextBlock) : ClosesPaths drawing (paintText height b) := by
  obtain ⟨texts, hshow, _⟩ := exists_showLines b
    (firstBaseline height b (blockLines b).length) 0 (blockLines b)
  have hplaced : ∀ op ∈ texts.flatMap placed, op.begins = false := by
    intro op hop
    obtain ⟨t, _, hop⟩ := List.mem_flatMap.mp hop
    simp only [placed, List.mem_cons, List.not_mem_nil, or_false] at hop
    rcases hop with rfl | rfl <;> rfl
  unfold Pdf.paintText
  dsimp only
  rw [hshow]
  refine of_not_begins (List.forall_mem_append.mpr ⟨List.forall_mem_append.mpr ⟨?_, hplaced⟩, ?_⟩)
  all_goals simp [Operator.begins]

theorem paintOp (height : Float) {op : DrawOp} (hop : op ∈ drawing) :
    ClosesPaths drawing (paintOp height op) := by
  cases op with
  | text b => exact (paintText height b).group
  | shape s => exact (paintShape hop height).group
  | connector c => exact (paintConnector height c).group

theorem paintPage (width height : Float) (aspect : Option Float) (p : Page) :
    ClosesPaths p.ops (paintPage width height aspect p) := by
  have hops : ClosesPaths p.ops (p.ops.flatMap (Pdf.paintOp height)) :=
    flatMap fun _ => paintOp height
  unfold Pdf.paintPage
  apply ((paintBackground ..).append hops).append
  split
  next => exact of_not_begins (by simp [paintLogo, Pdf.group, Operator.begins])
  next => exact nil

end ClosesPaths

/-! ## Pages -/

section Pages

variable {width height : Float} {aspect : Option Float} {p : Page}

/-- The colours of a shape stand in its path, so a page with a shape that has one has a broken
path. -/
theorem not_unbroken_of_colored {s : Shape} (hs : .shape s ∈ p.ops)
    (hcolored : ¬ (s.fill = none ∧ s.stroke = none)) :
    ¬ Unbroken (paintPage width height aspect p) := by
  intro hunbroken
  obtain ⟨before, behind, hops⟩ := List.append_of_mem hs
  obtain ⟨start, rest, hpath, hstart, hrest⟩ := exists_begun_shapePath s.kind (across s.frame.x)
    (upward height s.frame.y) (s.frame.w * pointsPerInch) (s.frame.h * pointsPerInch)
  obtain ⟨op, colors, hcolors⟩ := List.exists_cons_of_ne_nil (mt shapeColors_eq_nil_iff.mp hcolored)
  -- what stands in front of the shape leaves no path open
  let front := paintBackground width height p.background ++ before.flatMap (paintOp height) ++
    [.save]
  have hfront : ClosesPaths p.ops front := by
    have hbefore : ClosesPaths p.ops (before.flatMap (paintOp height)) :=
      .flatMap fun o ho => .paintOp height (by simp [hops, ho])
    have hsave : ClosesPaths p.ops [.save] := .of_not_begins (by simp [Operator.begins])
    exact ((ClosesPaths.paintBackground ..).append hbefore).append hsave
  have hopen : pathOpen (front ++ start :: rest) = true :=
    (pathOpen_append hfront.closed).trans (pathOpen_of_constructs hstart hrest)
  obtain ⟨back, hsplit⟩ : ∃ back,
      paintPage width height aspect p = front ++ start :: rest ++ op :: back := by
    obtain ⟨logo, hpage⟩ : ∃ logo, paintPage width height aspect p =
        paintBackground width height p.background ++ p.ops.flatMap (paintOp height) ++ logo :=
      ⟨_, rfl⟩
    rw [hpage, hops, List.flatMap_append, List.flatMap_cons, paintOp, group, paintShape, hpath,
      hcolors]
    simp only [front, List.append_assoc, List.cons_append, List.nil_append,
      List.append_cancel_left_eq, List.cons.injEq, true_and, exists_eq']
  obtain ⟨_, _, _, hconstructs, hpaints⟩ :=
    Operator.of_isPlain (isPlain_of_mem_shapeColors (by rw [hcolors]; exact List.mem_cons_self))
  rcases hunbroken _ op back hsplit hopen with h | h
  · simp [hconstructs] at h
  · simp [hpaints] at h

/-- The paths of a page are unbroken just when none of its shapes has a colour. What breaks a path
are the colours of a shape alone, behind its path and in front of the painting. -/
theorem unbroken_paintPage_iff (width height : Float) (aspect : Option Float) (p : Page) :
    (Unbroken (paintPage width height aspect p) ↔
      ∀ s, .shape s ∈ p.ops → s.fill = none ∧ s.stroke = none) ∧
    InPaths (ConstructsOrColors p.ops) (paintPage width height aspect p) := by
  have hpaths := (ClosesPaths.paintPage width height aspect p).inPaths
  refine ⟨⟨fun h s hs => ?_, fun h front op back hsplit hopen => ?_⟩, hpaths⟩
  · exact Classical.byContradiction fun hcolored => not_unbroken_of_colored hs hcolored h
  · rcases hpaths front op back hsplit hopen with
      hop | hop | ⟨s, hs, before, behind, _, hcolors, _⟩
    · exact .inl hop
    · exact .inr hop
    · rw [shapeColors_eq_nil_iff.mpr (h s hs)] at hcolors
      simp at hcolors

/-- A page with a red bar. -/
def redBar : Page where
  position := 0
  componentId := "user.bar"
  background := ⟨255, 255, 255⟩
  ops := [.shape ⟨.rect, ⟨1, 1, 2, 0.5⟩, some ⟨204, 0, 0⟩, none, 1⟩]
  logo := none
  status := .rendered
  renderKey := ""

/-- The fill colour of the bar is set while its path is open. -/
theorem not_unbroken_redBar : ¬ Unbroken (paintPage 720 540 none redBar) := by
  intro h
  have hcolor := h [.save, .fillColor _, .rectangle _ _ _ _, .fill, .restore, .save,
    .rectangle _ _ _ _] (.fillColor ⟨204, 0, 0⟩) [.fill, .restore] rfl rfl
  simp [Operator.constructs, Operator.paints] at hcolor

end Pages

end SlideDeck.Pdf
