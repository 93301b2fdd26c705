import SlideDeck.Component.Basic

/-! # Narratives

Slides that mostly hold text.
-/

namespace SlideDeck.Library

/-- Text-heavy slide with title and body content. -/
def fullTextNarrative : Component where
  id := "core.full-text-narrative"
  name := "Full Text Narrative"
  description := "Text-heavy slide with title and body content"
  version := ⟨1, 0, 0, [], []⟩
  category := .narrative
  tags := ["content", "narrative", "story", "text"]
  dataSchema := {
    type := some .object, required := ["title", "content"],
    properties := [
        ("bullets",
          {
            type := some .array, items := some { type := some .string },
            maxItems := some 6 }), ("content", { type := some .string }),
        ("title", { type := some .string })] }
  renderProgram := ⟨[
    .text {
        text := .var "data.title", frame := ⟨0.5, 0.4, 9, 0.6⟩, fontSize := 28,
        bold := true, face := .heading },
    .bind "bullets" (.default (.var "data.bullets") (.list [])),
    .bind "hasBullets" (.order .gt (.len (.var "bullets")) 0),
    .branch (.var "data.content")
      [
        .text {
            text := .var "data.content",
            frame := ⟨0.5, 1.3, 9, .cond (.var "hasBullets") 2.5 5.5⟩, fontSize := 14 }] [],
    .bind "startY" (.cond (.var "data.content") 4 1.5),
    .each (.var "bullets") "bullet" (some "i")
      [
        .text {
            text := .concat [.string "• ", .var "bullet"],
            frame := ⟨0.7, .arith .add (.var "startY") (.arith .mul (.var "i") 0.5), 8.5,
                0.45⟩, fontSize := 13 }]]⟩
  useCases := ["detailed explanations", "context setting", "storytelling"]
  bestFor := "When detailed text explanation is necessary"
  origin := .core

/-- Large quote with attribution. -/
def quotePullout : Component where
  id := "core.quote-pullout"
  name := "Quote Pullout"
  description := "Large quote with attribution"
  version := ⟨1, 0, 0, [], []⟩
  category := .narrative
  tags := ["citation", "quote", "testimonial"]
  dataSchema := {
    type := some .object, required := ["quote"],
    properties := [
        ("author", { type := some .string }), ("quote", { type := some .string }),
        ("role", { type := some .string })] }
  renderProgram := ⟨[
    .text {
        text := .string "“", frame := ⟨1, 1.5, 1, 1⟩, fontSize := 120,
        color := some (.var "theme.colors.primary") },
    .text {
        text := .var "data.quote", frame := ⟨1.5, 2.5, 7, 2.5⟩, fontSize := 24,
        italic := true, align := .center, valign := .middle },
    .branch (.var "data.author")
      [
        .text {
            text := .concat [.string "— ", .var "data.author"], frame := ⟨1.5, 5.2, 7, 0.4⟩,
            fontSize := 16, bold := true, align := .right }] [],
    .branch (.var "data.role")
      [
        .text {
            text := .var "data.role", frame := ⟨1.5, 5.6, 7, 0.3⟩, fontSize := 13,
            align := .right }] []]⟩
  useCases := ["testimonials", "expert quotes", "impactful statements"]
  bestFor := "Highlighting important quotes or testimonials"
  origin := .core

end SlideDeck.Library
