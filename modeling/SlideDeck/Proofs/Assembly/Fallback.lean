import SlideDeck.Proofs.Assembly.Checked
import SlideDeck.Proofs.Assembly.Reconciliation

/-!
# Falling back to the rules

A single proposal that is of use makes a deck from proposals. Without one the deck is the
one of the rules, with one warning in front of those that the rules give; what was tried
before leaves no trace.
-/

namespace SlideDeck

namespace Anchors

variable {a : Anchors}

/-! ## The warnings of the rules -/

theorem isAboutProposals_cover (content : Content) (style : Style) :
    ∀ w ∈ (a.cover content style).2, w.isAboutProposals = false := by
  unfold cover
  dsimp only
  split <;> simp [AssemblyWarning.isAboutProposals]

theorem isAboutProposals_choose (slides : List Slide) (s : Section)
    (candidates : List Candidate) :
    ∀ w ∈ (a.choose slides s candidates).2, w.isAboutProposals = false := by
  cases candidates with
  | nil => simp [choose, AssemblyWarning.isAboutProposals]
  | cons best others =>
      unfold choose
      dsimp only
      split
      next =>
        cases others with
        | nil =>
            dsimp only
            split <;> simp [AssemblyWarning.isAboutProposals]
        | cons next others => simp
      next => simp

theorem isAboutProposals_sectionSlides (table : SelectionTable) (slides : List Slide)
    (sections : List Section) :
    ∀ w ∈ (a.sectionSlides table slides sections).2, w.isAboutProposals = false := by
  induction sections generalizing slides with
  | nil => simp [sectionSlides]
  | cons s rest ih =>
      exact List.forall_mem_append.mpr ⟨isAboutProposals_choose slides s _, ih _⟩

theorem isAboutProposals_ruleBased (table : SelectionTable) (content : Content)
    (p : Parameters) :
    ∀ w ∈ (a.ruleBased table content p).2, w.isAboutProposals = false := by
  unfold ruleBased ruleSlides
  dsimp only
  rw [List.forall_mem_append, List.forall_mem_append, List.forall_mem_append]
  refine ⟨⟨⟨isAboutProposals_cover _ _, isAboutProposals_sectionSlides _ _ _⟩, ?_⟩,
    AssemblyWarning.isAboutProposals_slideCountWarning _ _⟩
  split <;> simp [AssemblyWarning.isAboutProposals]

end Anchors

/-! ## Assemblies -/

variable {table : SelectionTable} {content : Content} {components : List Component}
  {p : Parameters} {proposal : Proposal}

/-- Without proposals the rules decide, and there is nothing to say about proposals. -/
theorem ruleBased_of_assemble_none {assembly : Assembly}
    (h : assemble table content components p none = .ok assembly) :
    assembly.strategy = .ruleBased ∧ ∀ w ∈ assembly.warnings, w.isAboutProposals = false := by
  obtain ⟨a, _, hassembles⟩ := assemble_eq_ok_iff.mp h
  cases hassembles
  exact ⟨rfl, Anchors.isAboutProposals_ruleBased table content p⟩

theorem exists_assemble_none (hequipped : Equipped content components)
    (table : SelectionTable) (p : Parameters) :
    ∃ assembly, assemble table content components p none = .ok assembly := by
  obtain ⟨a, hfind⟩ := Anchors.exists_find_iff.mpr hequipped
  exact ⟨_, assemble_eq_ok_iff.mpr ⟨a, hfind, .ruleBased⟩⟩

/-- The assembly with the warning in front that proposals are of no use. -/
def Assembly.fallenBack (assembly : Assembly) : Assembly :=
  { assembly with warnings := .mapperFallback "no usable entries" :: assembly.warnings }

end SlideDeck
