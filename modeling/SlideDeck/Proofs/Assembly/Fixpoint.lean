import SlideDeck.Proofs.Assembly.Conformance
import SlideDeck.Proofs.Assembly.Reconciliation

/-!
# Decks that are proposed again

A deck that comes from proposals leaves nothing to reconcile: its slides are in order, each
shows a payload that its component accepts as it is, and every protected section is
mentioned. Proposed again, slide by slide, it comes out as it was.
-/

namespace SlideDeck

/-- The proposal to show a slide again. -/
def BlueprintEntry.toProposed (e : BlueprintEntry) : ProposedSlide :=
  ⟨e.position, e.componentId, e.data⟩

namespace Blueprint

/-- The proposal to show a deck again. -/
def toProposal (b : Blueprint) : Proposal := ⟨b.entries.map (·.toProposed)⟩

/-- Slides that count up from zero are settled in the order in which they stand. -/
theorem ordered_toProposal {b : Blueprint}
    (h : b.entries.map (·.position) = List.range b.entries.length) :
    b.toProposal.ordered = b.entries.map (·.toProposed) := by
  have hpositions : (b.entries.map (·.position)).Pairwise (· ≤ ·) := by
    rw [h]
    exact List.pairwise_le_range
  apply List.mergeSort_of_pairwise
  apply List.pairwise_map.mpr
  exact (List.pairwise_map.mp hpositions).imp fun hle => decide_eq_true hle

end Blueprint

namespace Anchors

variable {a : Anchors} {content : Content} {p : Parameters} {b : Blueprint}

/-! ## Nothing to reconcile -/

/-- A deck that leaves nothing to reconcile. -/
structure IsReconciled (a : Anchors) (content : Content) (b : Blueprint) : Prop where
  nonempty : b.entries ≠ []
  positions : b.entries.map (·.position) = List.range b.entries.length
  shows : ∀ e ∈ b.entries, a.ShowsEntry e
  mentions : ∀ s ∈ content.sections, s.isProtected = true →
    ∃ e ∈ b.entries, s.Mentioned e.data

/-- Reconciling does all there is to do. -/
theorem isReconciled_of_reconcile (hregular : a.Regular) {proposal : Proposal}
    {warnings : List AssemblyWarning}
    (h : a.reconcile content p proposal = some (b, warnings)) : a.IsReconciled content b := by
  obtain ⟨front, restored, back, missing, hreconciles⟩ := exists_reconciles hregular h
  refine ⟨?_, hreconciles.positions, hregular.sound.showsEntry_reconcile h, ?_⟩
  · intro hnil
    -- without slides there were no proposals, and then there is no deck either
    have hslides := hreconciles.slides
    rw [hnil, eq_comm, List.append_eq_nil_iff, List.append_eq_nil_iff] at hslides
    obtain ⟨⟨rfl, _⟩, rfl⟩ := hslides
    have hordered : proposal.ordered = [] := List.forall₂_nil_right_iff.mp hreconciles.settled
    have haccepted : (a.settled content proposal).accepted = 0 := by
      rw [settled, hordered]
      rfl
    rw [reconcile_eq, if_pos haccepted] at h
    cases h
  · rw [hreconciles.slides]
    exact hreconciles.putsBack.mentioned

/-! ## Reconciling again -/

/-- A slide that conforms is proposed with success. -/
theorem ShowsEntry.settle_toProposed (hdistinct : DistinctIds a.usable) {e : BlueprintEntry}
    (h : a.ShowsEntry e) (content : Content) (position : Nat) :
    a.settle content position e.toProposed = ⟨[{ e with position := position }], [], 1⟩ := by
  obtain ⟨old, id, data, snapshot⟩ := e
  obtain ⟨c, hmem, hid, hsnapshot, haccepts⟩ := h
  dsimp only at hid hsnapshot haccepts
  subst hid hsnapshot
  have hfind : (a.usable.find? fun other => other.id == c.id) = some c :=
    hdistinct.find?_eq_some_iff.mpr ⟨hmem, rfl⟩
  have hconform : c.conform data = .valid data := Component.conform_of_accepts haccepts
  simp only [settle, BlueprintEntry.toProposed, hfind, hconform]
  rfl

theorem settleAll_toProposed (hdistinct : DistinctIds a.usable) (content : Content) (start : Nat)
    {entries : List BlueprintEntry} (h : ∀ e ∈ entries, a.ShowsEntry e) :
    a.settleAll content start (entries.map (·.toProposed)) =
      ⟨Blueprint.renumber start entries, [], entries.length⟩ := by
  induction entries generalizing start with
  | nil => rfl
  | cons e rest ih =>
      obtain ⟨hfirst, hrest⟩ := List.forall_mem_cons.mp h
      simp only [List.map_cons, settleAll, hfirst.settle_toProposed hdistinct, ih _ hrest,
        Blueprint.renumber, List.length_cons, List.singleton_append, List.nil_append,
        Nat.add_comm 1]

/-- Where every protected section is mentioned nothing is put back. -/
theorem restore_of_mentioned {entries : List BlueprintEntry} {sections : List Section}
    (h : ∀ s ∈ sections, s.isProtected = true → ∃ e ∈ entries, s.Mentioned e.data) :
    a.restore entries sections = (entries, []) := by
  induction sections with
  | nil => rfl
  | cons s rest ih =>
      obtain ⟨hfirst, hrest⟩ := List.forall_mem_cons.mp h
      rw [restore_cons_of_mentioned hfirst, ih hrest]

/-- What leaves nothing to reconcile comes out as it is. -/
theorem IsReconciled.reconcile_toProposal (h : a.IsReconciled content b)
    (hdistinct : DistinctIds a.usable) (p : Parameters) :
    a.reconcile content p b.toProposal = some (b, a.deckWarnings p b.entries) := by
  have hnumbered : Blueprint.renumber 0 b.entries = b.entries :=
    Blueprint.renumber_eq_self (h.positions.trans List.range_eq_range')
  have hsettled : a.settled content b.toProposal = ⟨b.entries, [], b.entries.length⟩ := by
    rw [settled, Blueprint.ordered_toProposal h.positions,
      settleAll_toProposed hdistinct content 0 h.shows, hnumbered]
  have hcompleted : a.completed content b.toProposal = (b.entries, []) := by
    rw [completed, hsettled]
    exact restore_of_mentioned h.mentions
  have haccepted : b.entries.length ≠ 0 := List.length_eq_zero_iff.not.mpr h.nonempty
  rw [reconcile_eq, hcompleted, hsettled, if_neg haccepted, Blueprint.densify, hnumbered]
  rfl

end Anchors

/-! ## Assemblies -/

/-- A deck from proposals, proposed again, is assembled to the same deck, and there is
nothing to say about the proposals. -/
theorem assemble_toProposal {table : SelectionTable} {content : Content}
    {components : List Component} {p : Parameters} {proposal : Proposal} {first : Assembly}
    (hdistinct : DistinctIds components)
    (h : assemble table content components p (some proposal) = .ok first)
    (hmapped : first.strategy = .mapped) :
    ∃ again,
      assemble table content components p (some first.blueprint.toProposal) = .ok again ∧
      again.strategy = .mapped ∧ again.blueprint = first.blueprint ∧
      ∀ w ∈ again.warnings, w.isAboutProposals = false := by
  obtain ⟨a, hfind, hreconcile⟩ := exists_reconcile_of_mapped h hmapped
  have hregular : a.Regular := Anchors.regular_of_find hdistinct hfind
  have hreconciled : a.IsReconciled content first.blueprint :=
    Anchors.isReconciled_of_reconcile hregular hreconcile
  have hagain := hreconciled.reconcile_toProposal hregular.distinct p
  exact ⟨_, assemble_eq_ok_iff.mpr ⟨a, hfind, .mapped hagain⟩, rfl, rfl,
    Anchors.isAboutProposals_deckWarnings p first.blueprint.entries⟩

/-- The scattered slides take three corrections, and none the second time. -/
theorem assemble_toProposal_scattered :
    DistinctIds plainComponents ∧ ∃ first,
      assemble {} riskPlan plainComponents {} (some scatteredProposal) = .ok first ∧
      first.strategy = .mapped ∧ ∃ again,
        assemble {} riskPlan plainComponents {} (some first.blueprint.toProposal) =
          .ok again ∧
        again.strategy = .mapped ∧ again.blueprint = first.blueprint ∧
        ∀ w ∈ again.warnings, w.isAboutProposals = false := by
  have hdistinct : DistinctIds plainComponents := by decide
  obtain ⟨first, hrun, hmapped⟩ :=
    exists_mapped hdistinct riskPlan_equipped scatteredProposal_usable {} {}
  exact ⟨hdistinct, first, hrun, hmapped, assemble_toProposal hdistinct hrun hmapped⟩

end SlideDeck
