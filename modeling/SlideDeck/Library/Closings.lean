import SlideDeck.Component.Basic

/-! # Closings

The last slide of a deck.
-/

namespace SlideDeck.Library

/-- Closing slide with thank you message and contact info. -/
def thankYou : Component where
  id := "core.thank-you"
  name := "Thank You Slide"
  description := "Closing slide with thank you message and contact info"
  version := ⟨1, 0, 0, [], []⟩
  category := .closing
  tags := ["closing", "contact", "end", "thank you"]
  dataSchema := {
    type := some .object,
    properties := [
        ("contact",
          {
            type := some .object,
            properties := [
                ("email", { type := some .string }), ("name", { type := some .string }),
                ("phone", { type := some .string }), ("website", { type := some .string })] }),
        ("message", { type := some .string })] }
  renderProgram := ⟨[
    .text {
        text := .default (.var "data.message") (.string "Thank You"),
        frame := ⟨0.5, 2.5, 9, 1⟩, fontSize := 48, bold := true, face := .heading,
        color := some (.var "theme.colors.primary"), align := .center },
    .bind "contact"
      (.join (.string "
")
        [
          .var "data.contact.name", .var "data.contact.email", .var "data.contact.phone",
          .var "data.contact.website"]),
    .branch (.var "contact")
      [
        .text {
            text := .var "contact", frame := ⟨0.5, 4.5, 9, 1.5⟩, fontSize := 14,
            align := .center }] []]⟩
  useCases := ["presentation end", "contact information", "closing remarks"]
  bestFor := "Professional presentation conclusion"
  origin := .core

end SlideDeck.Library
