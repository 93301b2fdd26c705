import SlideDeck.Component.Basic

/-! # Figures

Slides that show data points.
-/

namespace SlideDeck.Library

/-- Grid of KPIs with values, labels, and trend indicators. -/
def kpiDashboard : Component where
  id := "core.kpi-dashboard"
  name := "KPI Dashboard"
  description := "Grid of KPIs with values, labels, and trend indicators"
  version := ⟨1, 0, 0, [], []⟩
  category := .data
  tags := ["dashboard", "grid", "kpi", "metrics", "performance"]
  dataSchema := {
    type := some .object, required := ["title", "kpis"],
    properties := [
        ("kpis",
          {
            type := some .array,
            items := some
                {
                  type := some .object, required := ["label", "value"],
                  properties := [
                      ("label", { type := some .string }),
                      ("trend", { type := some .number }),
                      ("value", { type := some .string })] }, minItems := some 2,
            maxItems := some 9 }), ("title", { type := some .string })] }
  renderProgram := ⟨[
    .text {
        text := .var "data.title", frame := ⟨0.5, 0.4, 9, 0.6⟩, fontSize := 28,
        bold := true, face := .heading },
    .bind "n" (.len (.var "data.kpis")),
    .bind "cols"
      (.extreme .max [1, .extreme .min [3, .unary .ceil (.unary .sqrt (.var "n"))]]),
    .bind "startX"
      (.arith .mul (.arith .sub 10 (.arith .sub (.arith .mul (.var "cols") 3.2) 0.4)) 0.5),
    .each (.var "data.kpis") "kpi" (some "i")
      [
        .bind "col" (.arith .mod (.var "i") (.var "cols")),
        .bind "row" (.unary .floor (.divOr (.var "i") (.var "cols") 0)),
        .bind "x" (.arith .add (.var "startX") (.arith .mul (.var "col") 3.2)),
        .bind "y" (.arith .add 1.5 (.arith .mul (.var "row") 2.2)),
        .shape {
            kind := .rect, frame := ⟨.var "x", .var "y", 2.8, 1.8⟩,
            fill := some (.string "F5F5F5") },
        .text {
            text := .var "kpi.value",
            frame := ⟨.var "x", .arith .add (.var "y") 0.4, 2.8, 0.6⟩, fontSize := 36,
            bold := true, color := some (.var "theme.colors.primary"), align := .center },
        .text {
            text := .var "kpi.label",
            frame := ⟨.var "x", .arith .add (.var "y") 1.1, 2.8, 0.5⟩, fontSize := 12,
            align := .center },
        .branch (.exists (.var "kpi.trend"))
          [
            .bind "up" (.order .ge (.var "kpi.trend") 0),
            .text {
                text := .concat
                    [
                      .cond (.var "up") (.string "+") (.string "-"),
                      .str (.unary .abs (.var "kpi.trend")), .string "%"],
                frame := ⟨.var "x", .arith .add (.var "y") 1.4, 2.8, 0.3⟩, fontSize := 10,
                bold := true,
                color := some (.cond (.var "up") (.string "00AA00") (.string "CC0000")),
                align := .center }] []]]⟩
  useCases := ["performance dashboards", "metric summaries", "status updates"]
  bestFor := "Presenting multiple related metrics at a glance"
  origin := .core

/-- Single giant metric with context and comparison. -/
def heroMetric : Component where
  id := "core.hero-metric"
  name := "Hero Metric"
  description := "Single giant metric with context and comparison"
  version := ⟨1, 0, 0, [], []⟩
  category := .data
  tags := ["focus", "hero", "highlight", "metric", "single"]
  dataSchema := {
    type := some .object, required := ["value", "label"],
    properties := [
        ("comparison", { type := some .string }), ("context", { type := some .string }),
        ("label", { type := some .string }), ("value", { type := some .string })] }
  renderProgram := ⟨[
    .text {
        text := .var "data.value", frame := ⟨0.5, 2, 9, 1.5⟩, fontSize := 80, bold := true,
        face := .heading, color := some (.var "theme.colors.primary"), align := .center },
    .text {
        text := .var "data.label", frame := ⟨0.5, 3.6, 9, 0.6⟩, fontSize := 24,
        align := .center },
    .branch (.var "data.comparison")
      [
        .text {
            text := .var "data.comparison", frame := ⟨0.5, 4.4, 9, 0.5⟩, fontSize := 18,
            bold := true,
            color := some
                (.cond (.contains (.var "data.comparison") (.string "+")) (.string "00AA00")
                  (.var "theme.colors.text")), align := .center }] [],
    .branch (.var "data.context")
      [
        .text {
            text := .var "data.context", frame := ⟨1.5, 5.5, 7, 0.8⟩, fontSize := 14,
            align := .center }] []]⟩
  useCases := ["key performance indicator", "goal achievement", "primary metric highlight"]
  bestFor := "Emphasizing one critical number that deserves full attention"
  origin := .core

/-- Horizontal bar chart comparing multiple values. -/
def comparisonBars : Component where
  id := "core.comparison-bars"
  name := "Comparison Bars"
  description := "Horizontal bar chart comparing multiple values"
  version := ⟨1, 0, 0, [], []⟩
  category := .data
  tags := ["bars", "chart", "comparison", "horizontal", "metrics"]
  dataSchema := {
    type := some .object, required := ["title", "items"],
    properties := [
        ("items",
          {
            type := some .array,
            items := some
                {
                  type := some .object, required := ["label", "value"],
                  properties := [
                      ("label", { type := some .string }),
                      ("value", { type := some .number })] }, maxItems := some 8 }),
        ("title", { type := some .string })] }
  renderProgram := ⟨[
    .text {
        text := .var "data.title", frame := ⟨0.5, 0.4, 9, 0.6⟩, fontSize := 28,
        bold := true, face := .heading },
    .bind "peak" (.default (.maxOf (.var "data.items") "value") 0),
    .each (.var "data.items") "item" (some "i")
      [
        .bind "y" (.arith .add 1.5 (.arith .mul (.var "i") 0.8)),
        .bind "barW"
          (.extreme .max [0, .arith .mul (.divOr (.var "item.value") (.var "peak") 0) 6]),
        .text {
            text := .var "item.label", frame := ⟨0.5, .var "y", 2.5, 0.5⟩, fontSize := 14,
            valign := .middle },
        .shape {
            kind := .rect, frame := ⟨3.2, .var "y", .var "barW", 0.5⟩,
            fill := some (.var "theme.colors.primary") },
        .text {
            text := .str (.var "item.value"),
            frame := ⟨.arith .add (.arith .add 3.2 (.var "barW")) 0.1, .var "y", 1, 0.5⟩,
            fontSize := 14, bold := true, valign := .middle }]]⟩
  useCases := ["comparing metrics", "benchmarking", "performance comparison"]
  bestFor := "Comparing 3-8 related values side by side"
  origin := .core

end SlideDeck.Library
