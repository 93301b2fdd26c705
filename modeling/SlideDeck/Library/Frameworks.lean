import SlideDeck.Component.Basic

/-! # Frameworks

Slides that arrange items in a fixed figure.
-/

namespace SlideDeck.Library

/-- 2x2 SWOT analysis matrix. -/
def swotGrid : Component where
  id := "core.swot-grid"
  name := "SWOT Grid"
  description := "2x2 SWOT analysis matrix"
  version := ⟨1, 0, 0, [], []⟩
  category := .framework
  tags := ["2x2", "analysis", "framework", "matrix", "swot"]
  dataSchema := {
    type := some .object,
    required := ["strengths", "weaknesses", "opportunities", "threats"],
    properties := [
        ("opportunities",
          {
            type := some .array, items := some { type := some .string },
            maxItems := some 6 }),
        ("strengths",
          {
            type := some .array, items := some { type := some .string },
            maxItems := some 6 }),
        ("threats",
          {
            type := some .array, items := some { type := some .string },
            maxItems := some 6 }),
        ("weaknesses",
          {
            type := some .array, items := some { type := some .string },
            maxItems := some 6 })] }
  renderProgram := ⟨[
    .text {
        text := .string "SWOT Analysis", frame := ⟨0.5, 0.3, 9, 0.5⟩, fontSize := 28,
        bold := true, face := .heading, align := .center },
    .shape { kind := .rect, frame := ⟨0.5, 1, 4.5, 2.8⟩, fill := some (.string "F5F5F5") },
    .text {
        text := .string "Strengths", frame := ⟨0.5, 1.1, 4.5, 0.4⟩, fontSize := 16,
        bold := true, color := some (.string "00AA00"), align := .center },
    .each (.var "data.strengths") "item" (some "i")
      [
        .text {
            text := .concat [.string "• ", .var "item"],
            frame := ⟨0.7, .arith .add 1.6 (.arith .mul (.var "i") 0.35), 4.1, 0.3⟩,
            fontSize := 11 }],
    .shape { kind := .rect, frame := ⟨5.25, 1, 4.5, 2.8⟩, fill := some (.string "F5F5F5") },
    .text {
        text := .string "Weaknesses", frame := ⟨5.25, 1.1, 4.5, 0.4⟩, fontSize := 16,
        bold := true, color := some (.string "CC0000"), align := .center },
    .each (.var "data.weaknesses") "item" (some "i")
      [
        .text {
            text := .concat [.string "• ", .var "item"],
            frame := ⟨5.45, .arith .add 1.6 (.arith .mul (.var "i") 0.35), 4.1, 0.3⟩,
            fontSize := 11 }],
    .shape { kind := .rect, frame := ⟨0.5, 4, 4.5, 2.8⟩, fill := some (.string "F5F5F5") },
    .text {
        text := .string "Opportunities", frame := ⟨0.5, 4.1, 4.5, 0.4⟩, fontSize := 16,
        bold := true, color := some (.string "0066CC"), align := .center },
    .each (.var "data.opportunities") "item" (some "i")
      [
        .text {
            text := .concat [.string "• ", .var "item"],
            frame := ⟨0.7, .arith .add 4.6 (.arith .mul (.var "i") 0.35), 4.1, 0.3⟩,
            fontSize := 11 }],
    .shape { kind := .rect, frame := ⟨5.25, 4, 4.5, 2.8⟩, fill := some (.string "F5F5F5") },
    .text {
        text := .string "Threats", frame := ⟨5.25, 4.1, 4.5, 0.4⟩, fontSize := 16,
        bold := true, color := some (.string "FF6600"), align := .center },
    .each (.var "data.threats") "item" (some "i")
      [
        .text {
            text := .concat [.string "• ", .var "item"],
            frame := ⟨5.45, .arith .add 4.6 (.arith .mul (.var "i") 0.35), 4.1, 0.3⟩,
            fontSize := 11 }]]⟩
  useCases := ["strategic planning", "business analysis", "situation assessment"]
  bestFor := "SWOT analysis and strategic planning discussions"
  origin := .core

/-- Generic 2x2 framework matrix with custom labels. -/
def matrix2x2 : Component where
  id := "core.matrix-2x2"
  name := "2x2 Matrix"
  description := "Generic 2x2 framework matrix with custom labels"
  version := ⟨1, 0, 0, [], []⟩
  category := .framework
  tags := ["2x2", "framework", "matrix", "quadrant"]
  dataSchema := {
    type := some .object, required := ["title", "xAxis", "yAxis", "quadrants"],
    properties := [
        ("quadrants",
          {
            type := some .array,
            items := some
                {
                  type := some .object,
                  properties := [
                      ("items", { type := some .array }),
                      ("label", { type := some .string })] }, minItems := some 4,
            maxItems := some 4 }), ("title", { type := some .string }),
        ("xAxis",
          {
            type := some .object,
            properties := [
                ("high", { type := some .string }), ("low", { type := some .string })] }),
        ("yAxis",
          {
            type := some .object,
            properties := [
                ("high", { type := some .string }), ("low", { type := some .string })] })] }
  renderProgram := ⟨[
    .text {
        text := .var "data.title", frame := ⟨0.5, 0.3, 9, 0.5⟩, fontSize := 28,
        bold := true, face := .heading, align := .center },
    .each (.take (.var "data.quadrants") 4) "q" (some "i")
      [
        .bind "x" (.cond (.eq (.arith .mod (.var "i") 2) 0) 1.5 5.5),
        .bind "y" (.cond (.order .lt (.var "i") 2) 1.5 4.3),
        .shape {
            kind := .rect, frame := ⟨.var "x", .var "y", 3.8, 2.5⟩,
            fill := some (.string "F0F0F0") },
        .text {
            text := .default (.var "q.label") (.string ""),
            frame := ⟨.var "x", .arith .add (.var "y") 0.1, 3.8, 0.4⟩, fontSize := 14,
            bold := true, color := some (.var "theme.colors.primary"), align := .center },
        .each (.take (.default (.var "q.items") (.list [])) 6) "item" (some "j")
          [
            .text {
                text := .concat [.string "• ", .var "item"],
                frame := ⟨.arith .add (.var "x") 0.2,
                    .arith .add (.arith .add (.var "y") 0.6) (.arith .mul (.var "j") 0.3),
                    3.4, 0.25⟩, fontSize := 10 }]],
    .text {
        text := .default (.var "data.xAxis.low") (.string ""), frame := ⟨1, 7, 2, 0.3⟩,
        fontSize := 11 },
    .text {
        text := .default (.var "data.xAxis.high") (.string ""), frame := ⟨7, 7, 2, 0.3⟩,
        fontSize := 11, align := .right },
    .text {
        text := .default (.var "data.yAxis.low") (.string ""), frame := ⟨0.3, 6.5, 1, 0.4⟩,
        fontSize := 11, align := .center },
    .text {
        text := .default (.var "data.yAxis.high") (.string ""), frame := ⟨0.3, 1.2, 1, 0.4⟩,
        fontSize := 11, align := .center }]⟩
  useCases := ["prioritization", "strategic positioning", "framework analysis"]
  bestFor := "Any 2x2 framework (Eisenhower, BCG, etc.)"
  origin := .core

/-- Three column framework. -/
def threePillars : Component where
  id := "core.three-pillars"
  name := "Three Pillars"
  description := "Three column framework"
  version := ⟨1, 0, 0, [], []⟩
  category := .framework
  tags := ["columns", "framework", "pillars", "three"]
  dataSchema := {
    type := some .object, required := ["title", "pillars"],
    properties := [
        ("pillars",
          {
            type := some .array,
            items := some
                {
                  type := some .object, required := ["name", "items"],
                  properties := [
                      ("items", { type := some .array }),
                      ("name", { type := some .string })] }, minItems := some 3,
            maxItems := some 3 }), ("title", { type := some .string })] }
  renderProgram := ⟨[
    .text {
        text := .var "data.title", frame := ⟨0.5, 0.4, 9, 0.6⟩, fontSize := 28,
        bold := true, face := .heading, align := .center },
    .each (.take (.var "data.pillars") 3) "pillar" (some "i")
      [
        .bind "x" (.arith .add 1.1 (.arith .mul (.var "i") 3.3)),
        .shape {
            kind := .rect, frame := ⟨.var "x", 1.5, 2.8, 5⟩,
            fill := some (.string "F5F5F5") },
        .text {
            text := .var "pillar.name", frame := ⟨.var "x", 1.7, 2.8, 0.6⟩, fontSize := 16,
            bold := true, color := some (.var "theme.colors.primary"), align := .center },
        .each (.take (.default (.var "pillar.items") (.list [])) 9) "item" (some "j")
          [
            .text {
                text := .concat [.string "• ", .var "item"],
                frame := ⟨.arith .add (.var "x") 0.2,
                    .arith .add 2.5 (.arith .mul (.var "j") 0.4), 2.4, 0.35⟩,
                fontSize := 11 }]]]⟩
  useCases := ["strategy pillars", "value propositions", "core principles"]
  bestFor := "Presenting three key areas, pillars, or focus points"
  origin := .core

/-- Three-tier pyramid structure. -/
def pyramid3Level : Component where
  id := "core.pyramid-3-level"
  name := "Pyramid 3-Level"
  description := "Three-tier pyramid structure"
  version := ⟨1, 0, 0, [], []⟩
  category := .framework
  tags := ["framework", "hierarchy", "levels", "pyramid", "structure"]
  dataSchema := {
    type := some .object, required := ["title", "levels"],
    properties := [
        ("levels",
          {
            type := some .array,
            items := some
                {
                  type := some .object, required := ["label"],
                  properties := [
                      ("description", { type := some .string }),
                      ("label", { type := some .string })] }, minItems := some 3,
            maxItems := some 3 }), ("title", { type := some .string })] }
  renderProgram := ⟨[
    .text {
        text := .var "data.title", frame := ⟨0.5, 0.4, 9, 0.6⟩, fontSize := 28,
        bold := true, face := .heading, align := .center },
    .bind "lvl0" (.at (.var "data.levels") 0),
    .shape {
        kind := .rect, frame := ⟨4, 1.5, 2, 1.2⟩,
        fill := some (.var "theme.colors.primary"), stroke := some (.string "FFFFFF"),
        strokeWidth := some 2 },
    .text {
        text := .default (.get (.var "lvl0") "label") (.string ""),
        frame := ⟨4, 1.7, 2, 0.4⟩, fontSize := 14, bold := true,
        color := some (.string "FFFFFF"), align := .center },
    .branch (.get (.var "lvl0") "description")
      [
        .text {
            text := .get (.var "lvl0") "description", frame := ⟨4, 2.2, 2, 0.4⟩,
            fontSize := 11, color := some (.string "FFFFFF"), align := .center }] [],
    .bind "lvl1" (.at (.var "data.levels") 1),
    .shape {
        kind := .rect, frame := ⟨3, 2.9, 4, 1.2⟩,
        fill := some (.var "theme.colors.primary"), stroke := some (.string "FFFFFF"),
        strokeWidth := some 2 },
    .text {
        text := .default (.get (.var "lvl1") "label") (.string ""),
        frame := ⟨3, 3.1, 4, 0.4⟩, fontSize := 14, bold := true,
        color := some (.string "FFFFFF"), align := .center },
    .branch (.get (.var "lvl1") "description")
      [
        .text {
            text := .get (.var "lvl1") "description",
            frame := ⟨3, 3.5999999999999996, 4, 0.4⟩, fontSize := 11,
            color := some (.string "FFFFFF"), align := .center }] [],
    .bind "lvl2" (.at (.var "data.levels") 2),
    .shape {
        kind := .rect, frame := ⟨2, 4.3, 6, 1.2⟩,
        fill := some (.var "theme.colors.primary"), stroke := some (.string "FFFFFF"),
        strokeWidth := some 2 },
    .text {
        text := .default (.get (.var "lvl2") "label") (.string ""),
        frame := ⟨2, 4.5, 6, 0.4⟩, fontSize := 14, bold := true,
        color := some (.string "FFFFFF"), align := .center },
    .branch (.get (.var "lvl2") "description")
      [
        .text {
            text := .get (.var "lvl2") "description", frame := ⟨2, 5.0, 6, 0.4⟩,
            fontSize := 11, color := some (.string "FFFFFF"), align := .center }] []]⟩
  useCases := ["organizational hierarchy", "maslow pyramid", "priority levels"]
  bestFor := "Hierarchical or layered concepts"
  origin := .core

end SlideDeck.Library
