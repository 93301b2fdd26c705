import SlideDeck.Assembly.Reconciling
import SlideDeck.Assembly.RuleBased

/-! # Assembly of a deck

Proposals come first; where none of them survives, and where there are none, the
rules decide.
-/

namespace SlideDeck

/-- Assembles a deck from content, components and perhaps proposals. -/
def assemble (table : SelectionTable) (content : Content) (components : List Component)
    (p : Parameters) (proposal : Option Proposal) : Except AssemblyError Assembly := do
  let anchors ← Anchors.find content components
  match proposal with
  | none =>
    let (blueprint, warnings) := anchors.ruleBased table content p
    return ⟨blueprint, .ruleBased, warnings⟩
  | some proposal =>
    match anchors.reconcile content p proposal with
    | some (blueprint, warnings) => return ⟨blueprint, .mapped, warnings⟩
    | none =>
      let (blueprint, warnings) := anchors.ruleBased table content p
      return ⟨blueprint, .ruleBased, .mapperFallback "no usable entries" :: warnings⟩

end SlideDeck
