import SlideDeck.Pdf.Painting

/-!
# Nesting of page content

Operators are well nested if groups close as they open, texts are shown in text objects that stand
in groups and hold nothing else, and a path that is begun is painted once before its group closes.
What is painted one after the other stays well nested, and so does what is put into a group.
-/

namespace SlideDeck.Pdf

namespace Operator

/-- How many groups an operator opens; closing one counts as minus one. -/
def groupStep : Operator → Int
  | .save => 1
  | .restore => -1
  | _ => 0

/-- The operators that construct a path. -/
def constructs : Operator → Bool
  | .moveTo .. | .lineTo .. | .curveTo .. | .rectangle .. | .closePath => true
  | _ => false

/-- The operators that paint the path and end it. -/
def paints : Operator → Bool
  | .fill | .stroke | .fillAndStroke | .endPath => true
  | _ => false

/-- The operators that may stand between the start of a path and its painting: those that go on
with the path, and colours and widths. -/
def isInPath : Operator → Bool
  | .fillColor _ | .strokeColor _ | .lineWidth _ => true
  | op => op.constructs

/-- The operators that stand inside of a text object or close it. -/
def isInText : Operator → Bool
  | .font .. | .textOrigin .. | .showText _ | .endText => true
  | _ => false

/-- The operators that neither belong to a text object or a path nor open or close a group. -/
def isPlain : Operator → Bool
  | .fillColor _ | .strokeColor _ | .lineWidth _ | .transform .. | .drawObject _ => true
  | _ => false

variable {op : Operator}

theorem isInPath_of_constructs (h : op.constructs = true) : op.isInPath = true := by
  cases op <;> simp_all [constructs, isInPath]

/-- What goes on with a path is in no text object and paints nothing. -/
theorem of_isInPath (h : op.isInPath = true) :
    op.groupStep = 0 ∧ op ≠ .beginText ∧ op.isInText = false ∧ op.paints = false := by
  cases op <;> simp_all [constructs, isInPath, groupStep, isInText, paints]

theorem of_paints (h : op.paints = true) :
    op.groupStep = 0 ∧ op ≠ .beginText ∧ op.isInText = false ∧ op.constructs = false := by
  cases op <;> simp_all [constructs, groupStep, isInText, paints]

theorem of_isPlain (h : op.isPlain = true) :
    op.groupStep = 0 ∧ op ≠ .beginText ∧ op.isInText = false ∧ op.constructs = false ∧
      op.paints = false := by
  cases op <;> simp_all [isPlain, constructs, groupStep, isInText, paints]

theorem of_isInText (h : op.isInText = true) :
    op.groupStep = 0 ∧ op ≠ .beginText ∧ op.constructs = false ∧ op.paints = false := by
  cases op <;> simp_all [constructs, groupStep, isInText, paints]

end Operator

/-! ## Groups -/

/-- How many more groups are opened than closed. -/
@[simp]
def depth : List Operator → Int
  | [] => 0
  | op :: rest => op.groupStep + depth rest

@[simp]
theorem depth_append (front back : List Operator) :
    depth (front ++ back) = depth front + depth back := by
  induction front with
  | nil => simp
  | cons op rest ih => simp [ih, Int.add_assoc]

theorem depth_eq_zero {ops : List Operator} (h : ∀ op ∈ ops, op.groupStep = 0) : depth ops = 0 := by
  induction ops with
  | nil => rfl
  | cons op rest ih =>
      obtain ⟨hop, hrest⟩ := List.forall_mem_cons.mp h
      rw [depth, hop, ih hrest, Int.add_zero]

/-! ## Well-nested operators -/

/-- A text at its place. -/
def placed (text : Float × Float × List UInt8) : List Operator :=
  [.textOrigin text.1 text.2.1, .showText text.2.2]

/-- A text object is begun and not closed yet. -/
def TextOpen (ops : List Operator) : Prop :=
  ∃ before inside, ops = before ++ .beginText :: inside ∧ .endText ∉ inside

/-- How an operator stands between those in front of it and those behind it, where so many groups
are open around all of them. -/
structure Stands (outer : Nat) (front : List Operator) (op : Operator) (back : List Operator) :
    Prop where
  /-- A text object stands in a group. It sets one font, shows texts each at a place of its own,
  and is closed. -/
  beginsText : op = .beginText → 0 < outer + depth front ∧
    ∃ face size, ∃ texts : List (Float × Float × List UInt8), ∃ rest,
      back = .font face size :: texts.flatMap placed ++ .endText :: rest
  /-- In a text object there is all that belongs into one, and nothing else. -/
  inText : op.isInText = true ↔ TextOpen front
  /-- A path is constructed in a group, and the path is painted. -/
  constructs : op.constructs = true → 0 < outer + depth front ∧ ∃ inside paint rest,
    back = inside ++ paint :: rest ∧ (∀ o ∈ inside, o.isInPath = true) ∧ paint.paints = true
  /-- What is painted is a path that has not been painted yet. -/
  paints : op.paints = true → ∃ before start inside,
    front = before ++ start :: inside ∧ start.constructs = true ∧ ∀ o ∈ inside, o.isInPath = true

/-- Operators are well nested if no group is closed that has not been opened, all groups that are
opened are closed, and each operator stands where it may. -/
structure WellNested (outer : Nat) (ops : List Operator) : Prop where
  depth_nonneg : ∀ front, front <+: ops → 0 ≤ depth front
  depth_eq : depth ops = 0
  stands : ∀ front op back, ops = front ++ op :: back → Stands outer front op back

variable {inner outer : Nat} {front back ops : List Operator} {op : Operator}

/-- An element of two lists in a row stands in the first one or in the second one. -/
theorem append_eq_append_cons {α : Type} {xs ys front back : List α} {x : α}
    (h : xs ++ ys = front ++ x :: back) :
    (∃ rest, xs = front ++ x :: rest ∧ back = rest ++ ys) ∨
      ∃ rest, ys = rest ++ x :: back ∧ front = xs ++ rest := by
  rcases List.append_eq_append_iff.mp h with ⟨rest, rfl, hys⟩ | ⟨rest, rfl, hback⟩
  · exact .inr ⟨rest, hys, rfl⟩
  · cases rest with
    | nil => exact .inr ⟨[], by simpa using hback.symm, by simp⟩
    | cons y rest =>
        obtain ⟨rfl, rfl⟩ := List.cons.inj hback
        exact .inl ⟨rest, rfl, rfl⟩

theorem TextOpen.mem (h : TextOpen ops) : .beginText ∈ ops := by
  obtain ⟨before, inside, rfl, _⟩ := h
  simp

theorem not_textOpen_of_forall (h : ∀ op ∈ ops, op ≠ .beginText) : ¬ TextOpen ops :=
  fun hopen => h _ hopen.mem rfl

theorem textOpen_append {more : List Operator} (hclosed : ¬ TextOpen more) :
    TextOpen (more ++ front) ↔ TextOpen front := by
  constructor
  · rintro ⟨before, inside, hsplit, hend⟩
    rcases append_eq_append_cons hsplit with ⟨rest, hmore, rfl⟩ | ⟨rest, hfront, _⟩
    · exact absurd ⟨before, rest, hmore, fun h => hend (List.mem_append_left _ h)⟩ hclosed
    · exact ⟨rest, inside, hfront, hend⟩
  · rintro ⟨before, inside, rfl, hend⟩
    exact ⟨more ++ before, inside, by simp, hend⟩

theorem Stands.widen (h : Stands inner front op back) {more : List Operator}
    (hdepth : (inner : Int) ≤ outer + depth more) (hclosed : ¬ TextOpen more)
    (behind : List Operator) : Stands outer (more ++ front) op (back ++ behind) := by
  refine ⟨fun hop => ?_, h.inText.trans (textOpen_append hclosed).symm, fun hop => ?_,
    fun hop => ?_⟩
  · obtain ⟨hgroup, face, size, texts, rest, rfl⟩ := h.beginsText hop
    rw [depth_append]
    exact ⟨by omega, face, size, texts, rest ++ behind, by simp⟩
  · obtain ⟨hgroup, inside, paint, rest, rfl, hinside, hpaint⟩ := h.constructs hop
    rw [depth_append]
    exact ⟨by omega, inside, paint, rest ++ behind, by simp, hinside, hpaint⟩
  · obtain ⟨before, start, inside, rfl, hstart, hinside⟩ := h.paints hop
    exact ⟨more ++ before, start, inside, by simp, hstart, hinside⟩

/-- A path that is painted: what begins it, what goes on with it, and the painting. -/
def IsPath (ops : List Operator) : Prop :=
  ∃ start inside paint, ops = start :: inside ++ [paint] ∧ start.constructs = true ∧
    (∀ op ∈ inside, op.isInPath = true) ∧ paint.paints = true

namespace WellNested

theorem nil (outer : Nat) : WellNested outer [] := by
  refine ⟨fun front hfront => ?_, rfl, fun front op back h => ?_⟩
  · simp [List.prefix_nil.mp hfront]
  · simp at h

/-- Every text object is closed. -/
theorem not_textOpen (h : WellNested outer ops) : ¬ TextOpen ops := by
  rintro ⟨before, inside, hops, hend⟩
  obtain ⟨_, face, size, texts, rest, hinside⟩ := (h.stands before _ inside hops).beginsText rfl
  exact hend (by simp [hinside])

/-- What is well nested stays so with something well nested behind it. -/
theorem append {more : List Operator} (h : WellNested outer ops) (hmore : WellNested outer more) :
    WellNested outer (ops ++ more) := by
  refine ⟨fun front hfront => ?_, ?_, fun front op back hsplit => ?_⟩
  · obtain ⟨back, hback⟩ := hfront
    rcases List.append_eq_append_iff.mp hback with ⟨rest, hops, _⟩ | ⟨rest, rfl, hrest⟩
    · exact h.depth_nonneg front ⟨rest, hops.symm⟩
    · rw [depth_append, h.depth_eq, Int.zero_add]
      exact hmore.depth_nonneg rest ⟨back, hrest.symm⟩
  · rw [depth_append, h.depth_eq, hmore.depth_eq, Int.zero_add]
  · rcases append_eq_append_cons hsplit with ⟨rest, hops, rfl⟩ | ⟨rest, hrest, rfl⟩
    · have hnone : (outer : Int) ≤ outer + depth [] := by simp
      exact (h.stands front op rest hops).widen hnone (not_textOpen_of_forall (by simp)) more
    · have hclosed : (outer : Int) ≤ outer + depth ops := by simp [h.depth_eq]
      simpa using (hmore.stands rest op back hrest).widen hclosed h.not_textOpen []

theorem flatMap {α : Type} {f : α → List Operator} {xs : List α}
    (h : ∀ x ∈ xs, WellNested outer (f x)) : WellNested outer (xs.flatMap f) := by
  induction xs with
  | nil => exact nil outer
  | cons x rest ih =>
      obtain ⟨hx, hrest⟩ := List.forall_mem_cons.mp h
      exact hx.append (ih hrest)

/-- Operators that open and close no group are well nested if each stands where it may. -/
theorem of_stands (h : ∀ op ∈ ops, op.groupStep = 0)
    (hstands : ∀ front op back, ops = front ++ op :: back → Stands outer front op back) :
    WellNested outer ops :=
  ⟨fun _ hfront => Int.le_of_eq (depth_eq_zero fun op hop => h op (hfront.subset hop)).symm,
    depth_eq_zero h, hstands⟩

/-- What belongs to no text object and no path stands where no text object is open. -/
theorem stands_of_ne (hbegin : op ≠ .beginText) (htext : op.isInText = false)
    (hconstructs : op.constructs = false) (hpaints : op.paints = false)
    (hclosed : ¬ TextOpen front) (back : List Operator) : Stands outer front op back := by
  constructor <;> simp_all

theorem plain (hops : ∀ op ∈ ops, op.isPlain = true) : WellNested outer ops := by
  have hstep : ∀ op ∈ ops, op.groupStep = 0 := fun op hop => (Operator.of_isPlain (hops op hop)).1
  refine of_stands hstep fun front op back hsplit => ?_
  obtain ⟨_, hbegin, htext, hconstructs, hpaints⟩ :=
    Operator.of_isPlain (hops op (by simp [hsplit]))
  refine stands_of_ne hbegin htext hconstructs hpaints (not_textOpen_of_forall fun o ho => ?_) back
  exact (Operator.of_isPlain (hops o (by simp [hsplit, ho]))).2.1

/-- A path is well nested in a group. -/
theorem path (h : IsPath ops) (houter : 0 < outer) : WellNested outer ops := by
  obtain ⟨start, inside, paint, rfl, hstart, hinside, hpaint⟩ := h
  have hpath : ∀ op ∈ start :: inside, op.isInPath = true :=
    List.forall_mem_cons.mpr ⟨Operator.isInPath_of_constructs hstart, hinside⟩
  have hstep : ∀ op ∈ start :: inside ++ [paint], op.groupStep = 0 := by
    rw [List.forall_mem_append, List.forall_mem_singleton]
    exact ⟨fun op hop => (Operator.of_isInPath (hpath op hop)).1, (Operator.of_paints hpaint).1⟩
  have hbegins : ∀ op ∈ start :: inside ++ [paint], op ≠ .beginText := by
    rw [List.forall_mem_append, List.forall_mem_singleton]
    exact ⟨fun op hop => (Operator.of_isInPath (hpath op hop)).2.1, (Operator.of_paints hpaint).2.1⟩
  refine of_stands hstep fun front op back hsplit => ?_
  have hfront : depth front = 0 := depth_eq_zero fun o ho => hstep o (by simp [hsplit, ho])
  have hclosed : ¬ TextOpen front :=
    not_textOpen_of_forall fun o ho => hbegins o (by simp [hsplit, ho])
  rcases append_eq_append_cons hsplit with ⟨rest, hops, rfl⟩ | ⟨rest, hlast, rfl⟩
  · obtain ⟨_, hbegin, htext, hpaints⟩ := Operator.of_isInPath (hpath op (by simp [hops]))
    refine ⟨fun h => absurd h hbegin, iff_of_false (by simp [htext]) hclosed, fun _ => ?_,
      fun h => ?_⟩
    · refine ⟨by omega, rest, paint, [], rfl, fun o ho => ?_, hpaint⟩
      exact hpath o (by simp [hops, ho])
    · simp [hpaints] at h
  · obtain ⟨rfl, rfl, rfl⟩ : rest = [] ∧ op = paint ∧ back = [] := by
      simpa [List.singleton_eq_append_iff] using hlast
    obtain ⟨_, hbegin, htext, hconstructs⟩ := Operator.of_paints hpaint
    refine ⟨fun h => absurd h hbegin, iff_of_false (by simp [htext]) hclosed, fun h => ?_,
      fun _ => ?_⟩
    · simp [hconstructs] at h
    · exact ⟨[], start, inside, by simp, hstart, hinside⟩

/-- A text object. -/
theorem text (houter : 0 < outer) (face : FontFace) (size : Float)
    (texts : List (Float × Float × List UInt8)) :
    WellNested outer (.beginText :: .font face size :: texts.flatMap placed ++ [.endText]) := by
  have hbody : ∀ op ∈ .font face size :: texts.flatMap placed,
      op.isInText = true ∧ op ≠ .endText := by
    refine List.forall_mem_cons.mpr ⟨⟨rfl, Operator.noConfusion⟩, fun op hop => ?_⟩
    obtain ⟨t, _, hop⟩ := List.mem_flatMap.mp hop
    simp only [placed, List.mem_cons, List.not_mem_nil, or_false] at hop
    rcases hop with rfl | rfl <;> exact ⟨rfl, Operator.noConfusion⟩
  have hstands : ∀ {inside op} (back : List Operator), .endText ∉ inside → op.isInText = true →
      Stands outer (.beginText :: inside) op back := by
    intro inside op back hopen hop
    obtain ⟨_, hbegin, hconstructs, hpaints⟩ := Operator.of_isInText hop
    refine ⟨fun h => absurd h hbegin, ⟨fun _ => ⟨[], inside, rfl, hopen⟩, fun _ => hop⟩,
      fun h => ?_, fun h => ?_⟩
    · simp [hconstructs] at h
    · simp [hpaints] at h
  refine of_stands ?_ fun front op back hsplit => ?_
  · rw [List.forall_mem_append, List.forall_mem_cons, List.forall_mem_singleton]
    exact ⟨⟨rfl, fun op hop => (Operator.of_isInText (hbody op hop).1).1⟩, rfl⟩
  · rcases append_eq_append_cons hsplit with ⟨rest, hops, rfl⟩ | ⟨rest, hlast, rfl⟩
    · cases front with
      | nil =>
          obtain ⟨rfl, rfl⟩ := List.cons.inj hops
          have hclosed : ¬ TextOpen [] := not_textOpen_of_forall (by simp)
          refine ⟨fun _ => ⟨by simpa using houter, face, size, texts, [], rfl⟩, ?_, ?_, ?_⟩
          · exact iff_of_false Bool.noConfusion hclosed
          · exact Bool.noConfusion
          · exact Bool.noConfusion
      | cons first inner =>
          obtain ⟨rfl, hinner⟩ := List.cons.inj hops
          refine hstands _ (fun hend => ?_) (hbody op (by simp [hinner])).1
          exact (hbody .endText (by simp [hinner, hend])).2 rfl
    · obtain ⟨rfl, rfl, rfl⟩ : rest = [] ∧ op = .endText ∧ back = [] := by
        simpa [List.singleton_eq_append_iff] using hlast
      rw [List.append_nil]
      exact hstands [] (fun hend => (hbody .endText hend).2 rfl) rfl

/-- A group of what is well nested inside of it. -/
theorem group (h : WellNested (outer + 1) ops) : WellNested outer (group ops) := by
  have hsaved : ¬ TextOpen [.save] := not_textOpen_of_forall (by simp)
  refine ⟨fun front hfront => ?_, ?_, fun front op back hsplit => ?_⟩
  · rcases List.prefix_cons_iff.mp hfront with rfl | ⟨inner, rfl, hinner⟩
    · simp
    · rw [depth]
      rcases List.prefix_concat_iff.mp hinner with rfl | hops
      · simp [h.depth_eq, Operator.groupStep]
      · have hnonneg := h.depth_nonneg inner hops
        simp only [Operator.groupStep]
        omega
  · simp [Pdf.group, h.depth_eq, Operator.groupStep]
  · rcases append_eq_append_cons hsplit with ⟨rest, hops, rfl⟩ | ⟨rest, hlast, rfl⟩
    · cases front with
      | nil =>
          obtain ⟨rfl, _⟩ := List.cons.inj hops
          exact stands_of_ne Operator.noConfusion rfl rfl rfl (not_textOpen_of_forall (by simp)) _
      | cons first inner =>
          obtain ⟨rfl, hinner⟩ := List.cons.inj hops
          have hopened : ((outer + 1 : Nat) : Int) ≤ outer + depth [.save] := by
            simp [Operator.groupStep]
          exact (h.stands inner op rest hinner).widen hopened hsaved [.restore]
    · obtain ⟨rfl, rfl, rfl⟩ : rest = [] ∧ op = .restore ∧ back = [] := by
        simpa [List.singleton_eq_append_iff] using hlast
      have hclosed : ¬ TextOpen ([.save] ++ ops) := mt (textOpen_append hsaved).mp h.not_textOpen
      rw [List.append_nil]
      exact stands_of_ne Operator.noConfusion rfl rfl rfl hclosed _

end WellNested

end SlideDeck.Pdf
