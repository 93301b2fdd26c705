import SlideDeck.Proofs.Pdf.Nesting

/-!
# The operators of a page

A page is a row of groups: its background, one group for each operation of the drawing, and the
logo. Shapes, lines and arrow heads are paths that are painted once; a block of text is a text
object that shows each line of the block once.
-/

namespace SlideDeck.Pdf

variable {ops : List Operator} {op : Operator}

/-! ## Paths -/

theorem paints_paintOperator (fill stroke : Option Color) :
    (paintOperator fill stroke).paints = true := by
  cases fill <;> cases stroke <;> rfl

/-- Each line is shown at a place of its own. -/
theorem exists_showLines (b : TextBlock) (baseline : Float) (number : Nat) (lines : List String) :
    ∃ texts : List (Float × Float × List UInt8),
      showLines b baseline number lines = texts.flatMap placed ∧
        texts.map (·.2.2) = lines.map encodeText := by
  induction lines generalizing number with
  | nil => exact ⟨[], rfl, rfl⟩
  | cons line rest ih =>
      obtain ⟨texts, hshow, htexts⟩ := ih (number + 1)
      let y := baseline - b.fontSize * lineSpacing * Binary64.ofNat number
      refine ⟨(lineStart b line, y, encodeText line) :: texts, ?_, ?_⟩
      · rw [showLines, hshow]
        rfl
      · rw [List.map_cons, htexts, List.map_cons]

end SlideDeck.Pdf
