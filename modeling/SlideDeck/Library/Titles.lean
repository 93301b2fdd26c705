import SlideDeck.Component.Basic

/-! # Covers and openers

Covers, dividers and tables of contents.
-/

namespace SlideDeck.Library

/-- Cover slide with title, subtitle, and 2-4 key metrics displayed in circles. -/
def statsCover : Component where
  id := "core.stats-cover"
  name := "Stats Cover"
  description := "Cover slide with title, subtitle, and 2-4 key metrics displayed in circles"
  version := ⟨1, 0, 0, [], []⟩
  category := .title
  tags := ["cover", "metrics", "opening", "stats", "title"]
  dataSchema := {
    type := some .object, required := ["title", "stats"],
    properties := [
        ("stats",
          {
            type := some .array,
            items := some
                {
                  type := some .object, required := ["label", "value"],
                  properties := [
                      ("label", { type := some .string }),
                      ("value", { type := some .string })] }, minItems := some 2,
            maxItems := some 4 }), ("subtitle", { type := some .string }),
        ("title", { type := some .string })] }
  renderProgram := ⟨[
    .text {
        text := .var "data.title", frame := ⟨0.5, 1.5, 9, 1⟩, fontSize := 44, bold := true,
        face := .heading, align := .center },
    .branch (.var "data.subtitle")
      [
        .text {
            text := .var "data.subtitle", frame := ⟨0.5, 2.6, 9, 0.5⟩, fontSize := 18,
            align := .center }] [],
    .bind "n" (.len (.var "data.stats")),
    .bind "startX"
      (.arith .mul
        (.arith .sub 10 (.extreme .max [0, .arith .sub (.arith .mul (.var "n") 2.4) 0.4]))
        0.5),
    .each (.var "data.stats") "stat" (some "i")
      [
        .bind "x" (.arith .add (.var "startX") (.arith .mul (.var "i") 2.4)),
        .shape {
            kind := .ellipse, frame := ⟨.var "x", 4, 2, 2⟩,
            fill := some (.var "theme.colors.primary") },
        .text {
            text := .var "stat.value", frame := ⟨.var "x", 4.5, 2, 0.6⟩, fontSize := 32,
            bold := true, color := some (.var "theme.colors.background"), align := .center },
        .text {
            text := .var "stat.label", frame := ⟨.var "x", 5.2, 2, 0.4⟩, fontSize := 12,
            color := some (.var "theme.colors.background"), align := .center }]]⟩
  useCases := [
    "presentation opening", "executive summary", "quarterly review", "performance report"]
  bestFor := "Data-driven presentations that want to lead with key numbers"
  origin := .core

/-- Clean cover slide with title, subtitle, and footer. -/
def minimalCover : Component where
  id := "core.minimal-cover"
  name := "Minimal Cover"
  description := "Clean cover slide with title, subtitle, and footer"
  version := ⟨1, 0, 0, [], []⟩
  category := .title
  tags := ["clean", "cover", "minimal", "simple", "title"]
  dataSchema := {
    type := some .object, required := ["title"],
    properties := [
        ("author", { type := some .string }), ("date", { type := some .string }),
        ("subtitle", { type := some .string }), ("title", { type := some .string })] }
  renderProgram := ⟨[
    .text {
        text := .var "data.title", frame := ⟨0.5, 2.5, 9, 1.2⟩, fontSize := 48,
        bold := true, face := .heading, align := .center },
    .branch (.var "data.subtitle")
      [
        .text {
            text := .var "data.subtitle", frame := ⟨0.5, 3.8, 9, 0.6⟩, fontSize := 20,
            align := .center }] [],
    .branch (.logic .or [.var "data.author", .var "data.date"])
      [
        .text {
            text := .join (.string " • ") [.var "data.author", .var "data.date"],
            frame := ⟨0.5, 6.8, 9, 0.3⟩, fontSize := 12, align := .center }] [],
    .shape {
        kind := .rect, frame := ⟨3.5, 4.6, 3, 0.05⟩,
        fill := some (.var "theme.colors.primary") }]⟩
  useCases := ["any presentation", "client proposals", "reports", "general opening"]
  bestFor := "Professional presentations that prioritize clarity and elegance"
  origin := .core

/-- Bold cover with a large impactful number and supporting text. -/
def impactCover : Component where
  id := "core.impact-cover"
  name := "Impact Cover"
  description := "Bold cover with a large impactful number and supporting text"
  version := ⟨1, 0, 0, [], []⟩
  category := .title
  tags := ["bold", "cover", "hero", "impact", "number"]
  dataSchema := {
    type := some .object, required := ["number", "context"],
    properties := [
        ("context", { type := some .string }), ("number", { type := some .string }),
        ("subtitle", { type := some .string })] }
  renderProgram := ⟨[
    .text {
        text := .var "data.number", frame := ⟨0.5, 1.8, 9, 1.8⟩, fontSize := 96,
        bold := true, face := .heading, color := some (.var "theme.colors.primary"),
        align := .center },
    .text {
        text := .var "data.context", frame := ⟨0.5, 3.8, 9, 0.8⟩, fontSize := 32,
        bold := true, face := .heading, align := .center },
    .branch (.var "data.subtitle")
      [
        .text {
            text := .var "data.subtitle", frame := ⟨0.5, 4.8, 9, 0.5⟩, fontSize := 16,
            align := .center }] []]⟩
  useCases := ["results presentations", "achievement highlights", "milestone announcements"]
  bestFor := "Presentations focused on a single powerful metric or achievement"
  origin := .core

/-- Full-bleed section divider with section name and number. -/
def sectionDivider : Component where
  id := "core.section-divider"
  name := "Section Divider"
  description := "Full-bleed section divider with section name and number"
  version := ⟨1, 0, 0, [], []⟩
  category := .title
  tags := ["chapter", "divider", "section", "separator"]
  dataSchema := {
    type := some .object, required := ["sectionName"],
    properties := [
        ("sectionName", { type := some .string }),
        ("sectionNumber", { type := some .string })] }
  renderProgram := ⟨[
    .shape {
        kind := .rect, frame := ⟨0, 0, .var "canvas.width", .var "canvas.height"⟩,
        fill := some (.var "theme.colors.primary") },
    .branch (.var "data.sectionNumber")
      [
        .text {
            text := .var "data.sectionNumber", frame := ⟨0.5, 2, 9, 0.8⟩, fontSize := 48,
            bold := true, face := .heading, color := some (.string "FFFFFF"),
            align := .center }] [],
    .text {
        text := .var "data.sectionName", frame := ⟨0.5, 3, 9, 1.2⟩, fontSize := 44,
        bold := true, face := .heading, color := some (.string "FFFFFF"), align := .center }]⟩
  useCases := ["section breaks", "agenda transitions", "chapter divisions"]
  bestFor := "Long presentations that need clear section demarcation"
  origin := .core

/-- Numbered agenda with section names. -/
def tableOfContents : Component where
  id := "core.table-of-contents"
  name := "Table of Contents"
  description := "Numbered agenda with section names"
  version := ⟨1, 0, 0, [], []⟩
  category := .title
  tags := ["agenda", "contents", "outline", "overview", "toc"]
  dataSchema := {
    type := some .object, required := ["title", "items"],
    properties := [
        ("items",
          {
            type := some .array, items := some { type := some .string },
            minItems := some 2 }), ("title", { type := some .string })] }
  renderProgram := ⟨[
    .text {
        text := .default (.var "data.title") (.string "Agenda"),
        frame := ⟨0.5, 0.5, 9, 0.6⟩, fontSize := 32, bold := true, face := .heading },
    .bind "rowH" (.extreme .min [0.8, .divOr 5.5 (.len (.var "data.items")) 5.5]),
    .each (.var "data.items") "item" (some "i")
      [
        .bind "y" (.arith .add 1.5 (.arith .mul (.var "i") (.var "rowH"))),
        .text {
            text := .concat [.str (.arith .add (.var "i") 1), .string "."],
            frame := ⟨1, .var "y", 0.5, .extreme .max [0.05, .arith .sub (.var "rowH") 0.1]⟩,
            fontSize := 20, bold := true, color := some (.var "theme.colors.primary"),
            valign := .middle },
        .text {
            text := .var "item",
            frame := ⟨1.8, .var "y", 7.5,
                .extreme .max [0.05, .arith .sub (.var "rowH") 0.1]⟩, fontSize := 18,
            valign := .middle }]]⟩
  useCases := ["presentation overview", "agenda", "roadmap", "structure"]
  bestFor := "Presentations that need to set expectations upfront"
  origin := .core

end SlideDeck.Library
