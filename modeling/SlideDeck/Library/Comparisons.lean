import SlideDeck.Component.Basic

/-! # Comparisons

Slides that set two sides against each other.
-/

namespace SlideDeck.Library

/-- Split screen before and after comparison. -/
def beforeAfter : Component where
  id := "core.before-after"
  name := "Before/After"
  description := "Split screen before and after comparison"
  version := ⟨1, 0, 0, [], []⟩
  category := .comparison
  tags := ["after", "before", "comparison", "contrast"]
  dataSchema := {
    type := some .object, required := ["title", "before", "after"],
    properties := [
        ("after",
          {
            type := some .object,
            properties := [
                ("items", { type := some .array }), ("label", { type := some .string })] }),
        ("before",
          {
            type := some .object,
            properties := [
                ("items", { type := some .array }), ("label", { type := some .string })] }),
        ("title", { type := some .string })] }
  renderProgram := ⟨[
    .text {
        text := .var "data.title", frame := ⟨0.5, 0.4, 9, 0.6⟩, fontSize := 28,
        bold := true, face := .heading, align := .center },
    .shape { kind := .rect, frame := ⟨0.5, 1.5, 4.4, 5⟩, fill := some (.string "FFEBEE") },
    .text {
        text := .default (.var "data.before.label") (.string "Before"),
        frame := ⟨0.5, 1.7, 4.4, 0.5⟩, fontSize := 18, bold := true,
        color := some (.string "CC0000"), align := .center },
    .each (.take (.default (.var "data.before.items") (.list [])) 10) "item" (some "i")
      [
        .text {
            text := .concat [.string "• ", .var "item"],
            frame := ⟨0.7, .arith .add 2.4 (.arith .mul (.var "i") 0.4), 4, 0.35⟩,
            fontSize := 12 }],
    .shape { kind := .rect, frame := ⟨5.1, 1.5, 4.4, 5⟩, fill := some (.string "E8F5E9") },
    .text {
        text := .default (.var "data.after.label") (.string "After"),
        frame := ⟨5.1, 1.7, 4.4, 0.5⟩, fontSize := 18, bold := true,
        color := some (.string "00AA00"), align := .center },
    .each (.take (.default (.var "data.after.items") (.list [])) 10) "item" (some "i")
      [
        .text {
            text := .concat [.string "• ", .var "item"],
            frame := ⟨5.3, .arith .add 2.4 (.arith .mul (.var "i") 0.4), 4, 0.35⟩,
            fontSize := 12 }],
    .connector {
        source := ⟨4.6, 4.0⟩, target := ⟨5.4, 4.0⟩, head := .end,
        color := some (.var "theme.colors.primary"), width := some 3 }]⟩
  useCases := ["transformation stories", "improvement results", "change impact"]
  bestFor := "Showing dramatic change or improvement"
  origin := .core

/-- Two-column pros and cons list. -/
def prosCons : Component where
  id := "core.pros-cons"
  name := "Pros/Cons"
  description := "Two-column pros and cons list"
  version := ⟨1, 0, 0, [], []⟩
  category := .comparison
  tags := ["advantages", "comparison", "cons", "disadvantages", "pros"]
  dataSchema := {
    type := some .object, required := ["title", "pros", "cons"],
    properties := [
        ("cons",
          {
            type := some .array, items := some { type := some .string },
            maxItems := some 10 }),
        ("pros",
          {
            type := some .array, items := some { type := some .string },
            maxItems := some 10 }), ("title", { type := some .string })] }
  renderProgram := ⟨[
    .text {
        text := .var "data.title", frame := ⟨0.5, 0.4, 9, 0.6⟩, fontSize := 28,
        bold := true, face := .heading, align := .center },
    .text {
        text := .string "Pros", frame := ⟨0.5, 1.3, 4.4, 0.5⟩, fontSize := 20, bold := true,
        color := some (.string "00AA00"), align := .center },
    .each (.var "data.pros") "pro" (some "i")
      [
        .text {
            text := .concat [.string "+ ", .var "pro"],
            frame := ⟨0.7, .arith .add 2 (.arith .mul (.var "i") 0.45), 4, 0.4⟩,
            fontSize := 12 }],
    .text {
        text := .string "Cons", frame := ⟨5.1, 1.3, 4.4, 0.5⟩, fontSize := 20, bold := true,
        color := some (.string "CC0000"), align := .center },
    .each (.var "data.cons") "con" (some "i")
      [
        .text {
            text := .concat [.string "– ", .var "con"],
            frame := ⟨5.3, .arith .add 2 (.arith .mul (.var "i") 0.45), 4, 0.4⟩,
            fontSize := 12 }]]⟩
  useCases := ["decision making", "option evaluation", "trade-off analysis"]
  bestFor := "Balanced evaluation of options or decisions"
  origin := .core

end SlideDeck.Library
