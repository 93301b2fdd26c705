import SlideDeck.Proofs.Assembly.RuleDeck

/-!
# What an assembly needs

Four things have to be there: components, sections, a cover and a component for text. The
first of them that is missing is the error of an assembly. Nothing else is one: with all
four there is a deck, from proposals or by the rules, and it has slides.
-/

namespace SlideDeck

namespace Component

end Component

namespace Anchors

variable {content : Content} {components : List Component}

theorem length_settleAll (a : Anchors) (content : Content) (start : Nat)
    (proposals : List ProposedSlide) :
    (a.settleAll content start proposals).entries.length = proposals.length := by
  -- each proposal is settled with one slide, be it of a component or of text
  have hone : ∀ position proposed,
      (a.settle content position proposed).entries.length = 1 := by
    intro position proposed
    unfold settle
    dsimp only
    split
    next => rfl
    next => split <;> rfl
  induction proposals generalizing start with
  | nil => rfl
  | cons proposed rest ih =>
      unfold settleAll
      rw [List.length_append, hone, ih, List.length_cons, Nat.add_comm]

theorem le_length_restore (a : Anchors) (entries : List BlueprintEntry)
    (sections : List Section) : entries.length ≤ (a.restore entries sections).1.length := by
  induction sections generalizing entries with
  | nil => exact Nat.le_refl _
  | cons s rest ih =>
      unfold restore
      split
      next => exact ih entries
      next => exact Nat.le_trans List.length_le_length_insertIdx (ih _)

/-- What is reconciled is dense and has slides. -/
theorem isDense_of_reconcile {a : Anchors} {p : Parameters} {proposal : Proposal}
    {b : Blueprint} {warnings : List AssemblyWarning}
    (h : a.reconcile content p proposal = some (b, warnings)) :
    b.entries ≠ [] ∧ b.isDense = true := by
  rw [reconcile_eq] at h
  split at h
  next => cases h
  next haccepted =>
    cases h
    constructor
    · have hproposals : proposal.ordered ≠ [] := by
        intro hnil
        apply haccepted
        unfold settled
        rw [hnil]
        rfl
      have hslides : proposal.ordered.length ≤ (a.completed content proposal).1.length := by
        rw [← a.length_settleAll content 0 proposal.ordered]
        exact a.le_length_restore _ _
      have hnumbered := (Blueprint.sameSlides_renumber 0
        (a.completed content proposal).1).length_eq
      apply List.ne_nil_of_length_pos
      exact Nat.lt_of_lt_of_le (List.length_pos_of_ne_nil hproposals) (hnumbered ▸ hslides)
    · exact Blueprint.isDense_densify _

theorem isDense_ruleBased {a : Anchors} (husable : a.usable = components.filter (·.isPublic))
    (table : SelectionTable) (content : Content) (p : Parameters) :
    (a.ruleBased table content p).1.entries ≠ [] ∧
      (a.ruleBased table content p).1.isDense = true := by
  have hruled : a.IsRuled components table content p a.closing?.isSome
      ⟨(a.ruleBased table content p).1, .ruleBased, (a.ruleBased table content p).2⟩ :=
    isRuled_ruleBased husable rfl (List.Subset.refl _)
  refine ⟨?_, hruled.dense⟩
  apply List.ne_nil_of_length_pos
  have hsize : (a.ruleBased table content p).1.entries.length = _ := hruled.size
  omega

end Anchors

/-! ## Assemblies -/

variable {table : SelectionTable} {content : Content} {components : List Component}
  {p : Parameters} {proposal : Option Proposal}

/-- An assembly has slides, at the positions from zero on. -/
theorem isDense_of_assemble {assembly : Assembly}
    (h : assemble table content components p proposal = .ok assembly) :
    assembly.blueprint.entries ≠ [] ∧ assembly.blueprint.isDense = true := by
  obtain ⟨a, hfind, hassembles⟩ := assemble_eq_ok_iff.mp h
  have husable := (Anchors.find_eq_ok hfind).1
  cases hassembles with
  | mapped hreconcile => exact Anchors.isDense_of_reconcile hreconcile
  | fallenBack _ => exact Anchors.isDense_ruleBased husable table content p
  | ruleBased => exact Anchors.isDense_ruleBased husable table content p

end SlideDeck
