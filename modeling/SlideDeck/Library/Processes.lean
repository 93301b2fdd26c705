import SlideDeck.Component.Basic

/-! # Sequences of steps

Slides that lead through a sequence.
-/

namespace SlideDeck.Library

/-- Left-to-right timeline with milestones. -/
def timelineHorizontal : Component where
  id := "core.timeline-horizontal"
  name := "Timeline Horizontal"
  description := "Left-to-right timeline with milestones"
  version := ⟨1, 0, 0, [], []⟩
  category := .process
  tags := ["horizontal", "milestones", "roadmap", "timeline"]
  dataSchema := {
    type := some .object, required := ["title", "milestones"],
    properties := [
        ("milestones",
          {
            type := some .array,
            items := some
                {
                  type := some .object, required := ["date", "event"],
                  properties := [
                      ("date", { type := some .string }),
                      ("event", { type := some .string })] }, maxItems := some 8 }),
        ("title", { type := some .string })] }
  renderProgram := ⟨[
    .text {
        text := .var "data.title", frame := ⟨0.5, 0.4, 9, 0.6⟩, fontSize := 28,
        bold := true, face := .heading },
    .shape {
        kind := .line, frame := ⟨1, 3.5, 8, 0⟩,
        stroke := some (.var "theme.colors.primary"), strokeWidth := some 3 },
    .bind "n" (.len (.var "data.milestones")),
    .bind "spacing" (.divOr 8 (.arith .sub (.var "n") 1) 0),
    .bind "startX" (.cond (.order .le (.var "n") 1) 5 1),
    .each (.var "data.milestones") "m" (some "i")
      [
        .bind "x" (.arith .add (.var "startX") (.arith .mul (.var "i") (.var "spacing"))),
        .shape {
            kind := .ellipse, frame := ⟨.arith .sub (.var "x") 0.15, 3.35, 0.3, 0.3⟩,
            fill := some (.var "theme.colors.primary") },
        .text {
            text := .var "m.date", frame := ⟨.arith .sub (.var "x") 0.6, 2.7, 1.2, 0.4⟩,
            fontSize := 12, bold := true, align := .center },
        .text {
            text := .var "m.event", frame := ⟨.arith .sub (.var "x") 0.8, 3.9, 1.6, 0.6⟩,
            fontSize := 11, align := .center }]]⟩
  useCases := ["project timelines", "roadmaps", "historical events"]
  bestFor := "Showing chronological progression or future planning"
  origin := .core

/-- Arrows connecting sequential steps. -/
def processFlow : Component where
  id := "core.process-flow"
  name := "Process Flow"
  description := "Arrows connecting sequential steps"
  version := ⟨1, 0, 0, [], []⟩
  category := .process
  tags := ["arrows", "flow", "process", "steps"]
  dataSchema := {
    type := some .object, required := ["title", "steps"],
    properties := [
        ("steps",
          {
            type := some .array, items := some { type := some .string }, minItems := some 2,
            maxItems := some 5 }), ("title", { type := some .string })] }
  renderProgram := ⟨[
    .text {
        text := .var "data.title", frame := ⟨0.5, 0.4, 9, 0.6⟩, fontSize := 28,
        bold := true, face := .heading },
    .bind "n" (.len (.var "data.steps")),
    .bind "totalW"
      (.arith .add (.arith .mul (.var "n") 1.8)
        (.arith .mul (.extreme .max [0, .arith .sub (.var "n") 1]) 0.3)),
    .bind "startX" (.arith .mul (.arith .sub 10 (.var "totalW")) 0.5),
    .each (.var "data.steps") "step" (some "i")
      [
        .bind "x" (.arith .add (.var "startX") (.arith .mul (.var "i") 2.1)),
        .shape {
            kind := .rect, frame := ⟨.var "x", 2.5, 1.8, 1.2⟩,
            fill := some (.var "theme.colors.primary") },
        .text {
            text := .var "step", frame := ⟨.var "x", 2.5, 1.8, 1.2⟩, fontSize := 12,
            bold := true, color := some (.string "FFFFFF"), align := .center,
            valign := .middle },
        .branch (.order .lt (.var "i") (.arith .sub (.var "n") 1))
          [
            .connector {
                source := ⟨.arith .add (.var "x") 1.8, 3.1⟩,
                target := ⟨.arith .add (.var "x") 2.1, 3.1⟩, head := .end,
                color := some (.var "theme.colors.text"), width := some 2 }] []]]⟩
  useCases := ["workflows", "procedures", "step-by-step guides"]
  bestFor := "Explaining sequential processes or workflows"
  origin := .core

/-- Large numbered steps with descriptions. -/
def numberedSteps : Component where
  id := "core.numbered-steps"
  name := "Numbered Steps"
  description := "Large numbered steps with descriptions"
  version := ⟨1, 0, 0, [], []⟩
  category := .process
  tags := ["list", "numbers", "sequential", "steps"]
  dataSchema := {
    type := some .object, required := ["title", "steps"],
    properties := [
        ("steps",
          {
            type := some .array, items := some { type := some .string },
            maxItems := some 8 }), ("title", { type := some .string })] }
  renderProgram := ⟨[
    .text {
        text := .var "data.title", frame := ⟨0.5, 0.4, 9, 0.6⟩, fontSize := 28,
        bold := true, face := .heading },
    .bind "stepH" (.extreme .min [1, .divOr 5 (.len (.var "data.steps")) 5]),
    .each (.var "data.steps") "step" (some "i")
      [
        .bind "y" (.arith .add 1.5 (.arith .mul (.var "i") (.var "stepH"))),
        .shape {
            kind := .ellipse, frame := ⟨0.8, .var "y", 0.6, 0.6⟩,
            fill := some (.var "theme.colors.primary") },
        .text {
            text := .str (.arith .add (.var "i") 1), frame := ⟨0.8, .var "y", 0.6, 0.6⟩,
            fontSize := 24, bold := true, color := some (.string "FFFFFF"),
            align := .center, valign := .middle },
        .text {
            text := .var "step",
            frame := ⟨1.6, .var "y", 7.5,
                .extreme .max [0.1, .arith .sub (.var "stepH") 0.1]⟩, fontSize := 14,
            valign := .middle }]]⟩
  useCases := ["instructions", "how-to guides", "action plans"]
  bestFor := "Clear step-by-step instructions or action items"
  origin := .core

end SlideDeck.Library
