import SlideDeck.Assembly.Assemble

/-! # Assembly with checks for overflow

The bounds of a target are products of words. Where the engine is built to check for
overflow, a product that does not fit a word stops it, and there is neither a deck nor
an error. Each function here does the same as its namesake without the question mark,
and gives nothing where that is stopped.
-/

namespace SlideDeck

/-- The product of two words, if it fits a word. -/
def wordProduct? (a b : Nat) : Option Nat := if a * b < UInt64.size then some (a * b) else none

/-- The bounds of the target, if there is one, fit a word. -/
def Parameters.TargetFits (p : Parameters) : Prop :=
  ∀ target ∈ p.slideCount, target * 120 < UInt64.size

instance (p : Parameters) : Decidable p.TargetFits :=
  inferInstanceAs (Decidable (∀ target ∈ p.slideCount, target * 120 < UInt64.size))

/-- The most slides that are within the tolerance of a target. -/
def slideUpperBound? (target : Nat) : Option Nat :=
  (wordProduct? target 120).map fun product => (product + 99) / 100

/-- The fewest slides that are within the tolerance of a target. -/
def slideLowerBound? (target : Nat) : Option Nat :=
  (wordProduct? target 80).map fun product => product / 100

/-- The warning of a deck that is outside the tolerance. The fewest slides are of interest
only for a deck that has not too many. -/
def slideCountWarning? (target : Option Nat) (actual : Nat) : Option (List AssemblyWarning) :=
  match target with
  | none => some []
  | some target => do
    let upper ← slideUpperBound? target
    if upper < actual then return [.slideCountOutOfBand target actual]
    else
      let lower ← slideLowerBound? target
      return if actual < lower then [.slideCountOutOfBand target actual] else []

/-- The sections that a deck with a target keeps. -/
def trimSections? (sections : List Section) (target : Option Nat) (hasClosing : Bool) :
    Option (List Section) :=
  match target with
  | none => some sections
  | some target => do
    let upper ← slideUpperBound? target
    let framing := if hasClosing then 2 else 1
    return dropDown (upper - framing) sections.length sections

namespace Anchors

/-- The blueprint that the rules give for content. -/
def ruleBased? (a : Anchors) (table : SelectionTable) (content : Content) (p : Parameters) :
    Option (Blueprint × List AssemblyWarning) := do
  let kept ← trimSections? content.sections p.slideCount a.closing?.isSome
  let (slides, warnings) := a.ruleSlides table content p.style kept
  let countWarnings ← slideCountWarning? p.slideCount slides.length
  return (blueprintOf slides, warnings ++ countWarnings)

/-- The blueprint of proposals, unless none of them survives. -/
def reconcile? (a : Anchors) (content : Content) (p : Parameters) (proposal : Proposal) :
    Option (Option (Blueprint × List AssemblyWarning)) :=
  match a.reconciledSlides content proposal with
  | none => some none
  | some (entries, warnings) => do
    let countWarnings ← slideCountWarning? p.slideCount entries.length
    return some (Blueprint.densify ⟨entries⟩, warnings ++ countWarnings)

end Anchors

/-- Assembles a deck from content, components and perhaps proposals. -/
def assemble? (table : SelectionTable) (content : Content) (components : List Component)
    (p : Parameters) (proposal : Option Proposal) : Option (Except AssemblyError Assembly) :=
  match Anchors.find content components with
  | .error e => some (.error e)
  | .ok anchors =>
    match proposal with
    | none => do
      let (blueprint, warnings) ← anchors.ruleBased? table content p
      return .ok ⟨blueprint, .ruleBased, warnings⟩
    | some proposal => do
      match ← anchors.reconcile? content p proposal with
      | some (blueprint, warnings) => return .ok ⟨blueprint, .mapped, warnings⟩
      | none =>
        let (blueprint, warnings) ← anchors.ruleBased? table content p
        return .ok ⟨blueprint, .ruleBased, .mapperFallback "no usable entries" :: warnings⟩

end SlideDeck
