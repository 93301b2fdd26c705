import SlideDeck.Assembly.Basic

/-! # Trimming of sections

A deck with a target drops sections until it fits: the least important first, and of
equally important ones the last. Protected sections stay, and one section always does.
-/

namespace SlideDeck

/-- The index of the section to drop next: of the least priority among those that are
not protected, and the last of these. -/
def victim? : List Section → Option Nat
  | sections => (go 0 sections).map (·.1)
where
  /-- The index and the priority of the section to drop, counted from a start. -/
  go (start : Nat) : List Section → Option (Nat × Nat)
    | [] => none
    | s :: rest =>
      match go (start + 1) rest with
      | none => if s.isProtected then none else some (start, s.priority)
      | some (i, priority) =>
        if !s.isProtected && s.priority < priority then some (start, s.priority)
        else some (i, priority)

/-- Drops at most `count` sections one after another, until no more than `most` are
left. -/
def dropDown (most : Nat) : (count : Nat) → List Section → List Section
  | 0, sections => sections
  | count + 1, sections =>
    if most < sections.length ∧ 1 < sections.length then
      match victim? sections with
      | some i => dropDown most count (sections.eraseIdx i)
      | none => sections
    else sections

/-- The sections that a deck with a target keeps, with room for the cover and perhaps a
closing slide. -/
def trimSections (sections : List Section) (target : Option Nat) (hasClosing : Bool) :
    List Section :=
  match target with
  | none => sections
  | some target =>
    let framing := if hasClosing then 2 else 1
    dropDown (slideUpperBound target - framing) sections.length sections

end SlideDeck
