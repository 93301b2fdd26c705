import SlideDeck.Proofs.Assembly.Conformance
import SlideDeck.Proofs.Assembly.Restoring
import SlideDeck.Proofs.Assembly.Settling

/-!
# Decks that come from proposals

A deck from proposals has a slide for each of them, in the order of their positions, and
between these, in one place, a slide of text for each protected section that they leave
out. So every protected section is mentioned somewhere.
-/

namespace SlideDeck

namespace AssemblyWarning

/-- A warning says what has become of proposals. -/
def isAboutProposals : AssemblyWarning → Bool
  | .mapperFallback _ | .unknownComponent .. | .repairedEntry .. | .replacedEntry ..
  | .restoredSection _ => true
  | _ => false

/-- The title of the section that a warning says has been put back. -/
def restoredTitle? : AssemblyWarning → Option String
  | .restoredSection title => some title
  | _ => none

theorem restoredTitle?_eq_none {w : AssemblyWarning} (h : w.isAboutProposals = false) :
    w.restoredTitle? = none := by
  cases w with
  | restoredSection title => cases h
  | _ => rfl

theorem isAboutProposals_slideCountWarning (target : Option Nat) (actual : Nat) :
    ∀ w ∈ slideCountWarning target actual, w.isAboutProposals = false := by
  unfold slideCountWarning
  split
  next => simp
  next => split <;> simp [isAboutProposals]

end AssemblyWarning

namespace Anchors

/-! ## The stages of reconciling -/

/-- What has become of the proposals of a mapper. -/
def settled (a : Anchors) (content : Content) (proposal : Proposal) : Reconciled :=
  a.settleAll content 0 proposal.ordered

/-- All slides of the deck, and the warnings of those that put sections back. -/
def completed (a : Anchors) (content : Content) (proposal : Proposal) :
    List BlueprintEntry × List AssemblyWarning :=
  a.restore (a.settled content proposal).entries content.sections

/-- The warnings of a deck as a whole. -/
def deckWarnings (a : Anchors) (p : Parameters) (entries : List BlueprintEntry) :
    List AssemblyWarning :=
  let ids := entries.map (·.componentId)
  (repeated? ids).toList.map .repetition ++ (if ids.any a.isClosing then [] else [.noClosing]) ++
    slideCountWarning p.slideCount entries.length

variable {a : Anchors} {content : Content} {p : Parameters} {proposal : Proposal}

theorem reconcile_eq (a : Anchors) (content : Content) (p : Parameters) (proposal : Proposal) :
    a.reconcile content p proposal =
      if (a.settled content proposal).accepted = 0 then none
      else some (Blueprint.densify ⟨(a.completed content proposal).1⟩,
        (a.settled content proposal).warnings ++ (a.completed content proposal).2 ++
          a.deckWarnings p (a.completed content proposal).1) := by
  unfold reconcile reconciledSlides deckWarnings
  simp only [← List.append_assoc, apply_ite (Option.map _)]
  rfl

theorem isAboutProposals_deckWarnings (p : Parameters) (entries : List BlueprintEntry) :
    ∀ w ∈ a.deckWarnings p entries, w.isAboutProposals = false := by
  unfold deckWarnings
  rw [List.forall_mem_append, List.forall_mem_append]
  refine ⟨⟨?_, ?_⟩, AssemblyWarning.isAboutProposals_slideCountWarning _ _⟩
  · intro w hw
    obtain ⟨id, _, rfl⟩ := List.mem_map.mp hw
    rfl
  · split <;> simp [AssemblyWarning.isAboutProposals]

theorem restoredTitle?_settle (position : Nat) (proposed : ProposedSlide) :
    (a.settle content position proposed).warnings.filterMap AssemblyWarning.restoredTitle? =
      [] := by
  unfold settle
  dsimp only
  split
  next => rfl
  next => split <;> rfl

theorem restoredTitle?_settleAll (start : Nat) (proposals : List ProposedSlide) :
    (a.settleAll content start proposals).warnings.filterMap AssemblyWarning.restoredTitle? =
      [] := by
  induction proposals generalizing start with
  | nil => rfl
  | cons proposed rest ih =>
      unfold settleAll
      rw [List.filterMap_append, restoredTitle?_settle, ih]
      rfl

/-! ## The slides of a deck -/

/-- A deck that comes from proposals: a slide for each proposal, split at one place, and
there the slides that put sections back. -/
structure Reconciles (a : Anchors) (content : Content) (proposal : Proposal) (b : Blueprint)
    (warnings : List AssemblyWarning) (front restored back : List BlueprintEntry)
    (missing : List Section) : Prop where
  slides : b.entries = front ++ restored ++ back
  settled : List.Forall₂ a.Settles proposal.ordered (front ++ back)
  place : a.ClosesAt front back
  putsBack : a.PutsBack content.sections front back missing restored
  warned : warnings.filterMap AssemblyWarning.restoredTitle? = missing.map (·.title)
  positions : b.entries.map (·.position) = List.range b.entries.length

/-- The slides in front of those that put sections back, and those behind them, are the ones
that the proposals have been settled to. -/
theorem exists_reconciles_settled (hregular : a.Regular) {b : Blueprint}
    {warnings : List AssemblyWarning}
    (h : a.reconcile content p proposal = some (b, warnings)) :
    ∃ front restored back missing,
      a.Reconciles content proposal b warnings front restored back missing ∧
        Blueprint.SameSlides (a.settled content proposal).entries (front ++ back) := by
  obtain ⟨front, back, hentries, hplace⟩ := a.exists_closesAt (a.settled content proposal).entries
  obtain ⟨missing, restored, hputs, hrestore⟩ :=
    exists_putsBack hregular hplace content.sections
  rw [← hentries] at hrestore
  have hcompleted : a.completed content proposal = _ := hrestore
  rw [reconcile_eq, hcompleted] at h
  split at h
  next => cases h
  next =>
    cases h
    have hsettled : List.Forall₂ a.Settles proposal.ordered
        (a.settled content proposal).entries :=
      settles_settleAll hregular.distinct content 0 proposal.ordered
    rw [hentries] at hsettled
    -- each of the three parts is numbered on from the one in front of it
    have hfront := Blueprint.sameSlides_renumber 0 front
    have hmiddle := Blueprint.sameSlides_renumber (0 + front.length) restored
    have hback := Blueprint.sameSlides_renumber (0 + (front ++ restored).length) back
    refine ⟨_, _, _, missing, ⟨?_, ?_, hplace.of_sameSlides hfront hback,
      hputs.of_sameSlides hfront hmiddle hback, ?_, ?_⟩, hentries ▸ hfront.append hback⟩
    · unfold Blueprint.densify
      dsimp only
      rw [Blueprint.renumber_append, Blueprint.renumber_append]
    · exact (hfront.append hback).forall₂ (fun _ _ position he => he.move position) hsettled
    · have hproposals : (a.settled content proposal).warnings.filterMap
          AssemblyWarning.restoredTitle? = [] := restoredTitle?_settleAll 0 _
      have hdeck : (a.deckWarnings p (front ++ restored ++ back)).filterMap
          AssemblyWarning.restoredTitle? = [] := List.filterMap_eq_nil_iff.mpr fun w hw =>
        w.restoredTitle?_eq_none (isAboutProposals_deckWarnings p _ w hw)
      rw [List.filterMap_append, List.filterMap_append, hproposals, hdeck, List.nil_append,
        List.append_nil, List.filterMap_map]
      exact congrFun (List.filterMap_eq_map (f := Section.title)) missing
    · exact Blueprint.positions_of_isDense (Blueprint.isDense_densify _)

theorem exists_reconciles (hregular : a.Regular) {b : Blueprint}
    {warnings : List AssemblyWarning}
    (h : a.reconcile content p proposal = some (b, warnings)) :
    ∃ front restored back missing,
      a.Reconciles content proposal b warnings front restored back missing := by
  obtain ⟨front, restored, back, missing, hreconciles, _⟩ :=
    exists_reconciles_settled hregular h
  exact ⟨front, restored, back, missing, hreconciles⟩

/-- Reconciling sees the proposals in their order only. -/
theorem reconcile_congr {other : Proposal} (h : proposal.ordered = other.ordered) :
    a.reconcile content p proposal = a.reconcile content p other := by
  rw [reconcile_eq, reconcile_eq]
  unfold completed settled
  rw [h]

end Anchors

/-! ## Assemblies -/

variable {table : SelectionTable} {content : Content} {components : List Component}
  {p : Parameters} {proposal : Proposal} {assembly : Assembly}

/-- A deck from proposals has been reconciled. -/
theorem exists_reconcile_of_mapped
    (h : assemble table content components p (some proposal) = .ok assembly)
    (hmapped : assembly.strategy = .mapped) :
    ∃ a, Anchors.find content components = .ok a ∧
      a.reconcile content p proposal = some (assembly.blueprint, assembly.warnings) := by
  obtain ⟨a, hfind, hassembles⟩ := assemble_eq_ok_iff.mp h
  cases hassembles with
  | mapped hreconcile => exact ⟨a, hfind, hreconcile⟩
  | fallenBack _ => cases hmapped

/-- Some proposal names a public component that adopts its payload. -/
def Proposal.Usable (components : List Component) (proposal : Proposal) : Prop :=
  ∃ proposed ∈ proposal.entries, ∃ c ∈ components, c.isPublic = true ∧
    c.id = proposed.componentId ∧ ∃ data, c.Adopts proposed.data data

/-- Nothing comes of reconciling when no proposal is of use. -/
theorem reconcile_eq_none_iff {a : Anchors} (hdistinct : DistinctIds components)
    (husable : a.usable = components.filter (·.isPublic)) :
    a.reconcile content p proposal = none ↔ ¬ proposal.Usable components := by
  have hproposals : (∀ x ∈ proposal.ordered, ¬ a.Usable x) ↔ ¬ proposal.Usable components := by
    simp only [Proposal.Usable, not_exists, not_and, proposal.ordered_perm.mem_iff,
      Anchors.usable_iff husable]
  have hdistinct' : DistinctIds a.usable := husable ▸ hdistinct.filter _
  have haccepted : (a.settled content proposal).accepted = 0 ↔ _ :=
    Anchors.accepted_settleAll_eq_zero_iff hdistinct' content 0 proposal.ordered
  rw [Anchors.reconcile_eq, ← hproposals, ← haccepted]
  split
  next hzero => exact iff_of_true rfl hzero
  next hcount => exact iff_of_false (Option.some_ne_none _) hcount

theorem exists_mapped (hdistinct : DistinctIds components)
    (hequipped : Equipped content components) (husable : proposal.Usable components)
    (table : SelectionTable) (p : Parameters) :
    ∃ assembly, assemble table content components p (some proposal) = .ok assembly ∧
      assembly.strategy = .mapped := by
  obtain ⟨a, hfind⟩ := Anchors.exists_find_iff.mpr hequipped
  have hpublic : a.usable = components.filter (·.isPublic) := (Anchors.find_eq_ok hfind).1
  cases hreconcile : a.reconcile content p proposal with
  | none => exact absurd husable ((reconcile_eq_none_iff hdistinct hpublic).mp hreconcile)
  | some mapped => exact ⟨_, assemble_eq_ok_iff.mpr ⟨a, hfind, .mapped hreconcile⟩, rfl⟩

/-- A deck from proposals mentions every protected section. The slides that put sections
back, one for each warning of it and only for sections that the other slides leave out,
stand together and in the order of the sections, right in front of the last closing slide
among those of the proposals, or behind all of these. -/
theorem assemble_mentions_protected (hdistinct : DistinctIds components)
    (h : assemble table content components p (some proposal) = .ok assembly)
    (hmapped : assembly.strategy = .mapped) :
    (∀ s ∈ content.sections, 4 ≤ s.priority →
      ∃ e ∈ assembly.blueprint.entries, s.Mentioned e.data) ∧
    ∃ a front restored back missing, Anchors.find content components = .ok a ∧
      assembly.blueprint.entries = front ++ restored ++ back ∧
      List.Forall₂ a.Settles proposal.ordered (front ++ back) ∧ a.ClosesAt front back ∧
      missing.Sublist (content.sections.filter (·.isProtected)) ∧
      (∀ s ∈ missing, ∀ e ∈ front ++ back, ¬ s.Mentioned e.data) ∧
      List.Forall₂ a.ShowsText missing restored ∧
      assembly.warnings.filterMap AssemblyWarning.restoredTitle? = missing.map (·.title) := by
  obtain ⟨a, hfind, hreconcile⟩ := exists_reconcile_of_mapped h hmapped
  obtain ⟨front, restored, back, missing, hreconciles⟩ :=
    Anchors.exists_reconciles (Anchors.regular_of_find hdistinct hfind) hreconcile
  constructor
  · intro s hs hpriority
    rw [hreconciles.slides]
    exact hreconciles.putsBack.mentioned s hs (decide_eq_true hpriority)
  · exact ⟨a, front, restored, back, missing, hfind, hreconciles.slides, hreconciles.settled,
      hreconciles.place, hreconciles.putsBack.missing_sublist,
      hreconciles.putsBack.unmentioned, hreconciles.putsBack.texts, hreconciles.warned⟩

/-- A plan of three protected sections, one of them without a title. -/
def riskPlan : Content :=
  ⟨"Plan", [{ title := "Costs", content := "Costs fell.", priority := 5 },
    { title := "Risks", items := ["One"], priority := 4 },
    { title := " ", content := "Next steps.", priority := 5 },
    { title := "Aside", priority := 2 }]⟩

/-- Slides that are not in order: a closing slide first, then one with a member that is not
of its shape, one of a component that there is not, and the cover. -/
def scatteredProposal : Proposal :=
  ⟨[⟨9, "core.thank-you", .object []⟩,
    ⟨3, "core.full-text-narrative",
      .object [("bullets", .bool true), ("content", .string "Why? Costs fell."),
        ("title", .string "Why")]⟩,
    ⟨4, "core.ghost", .null⟩,
    ⟨0, "core.minimal-cover", .object [("title", .string "Plan")]⟩]⟩

theorem riskPlan_equipped : Equipped riskPlan plainComponents where
  sections := List.cons_ne_nil _ _
  cover := ⟨Library.minimalCover, by simp [plainComponents], rfl, rfl⟩
  narrative := ⟨Library.fullTextNarrative, by simp [plainComponents], rfl, rfl, by decide +kernel⟩

/-- The closing slide of the proposals is accepted as it is. -/
theorem scatteredProposal_usable : scatteredProposal.Usable plainComponents :=
  ⟨_, List.mem_cons_self, Library.thankYou, by simp [plainComponents], rfl, rfl, _,
    .asIs (by decide +kernel)⟩

/-- The untitled section is found nowhere and put back in front of the closing slide. -/
theorem assemble_mentions_protected_riskPlan :
    DistinctIds plainComponents ∧ ∃ assembly,
      assemble {} riskPlan plainComponents {} (some scatteredProposal) = .ok assembly ∧
      assembly.strategy = .mapped ∧
      (∀ s ∈ riskPlan.sections, 4 ≤ s.priority →
        ∃ e ∈ assembly.blueprint.entries, s.Mentioned e.data) ∧
      ∃ a front restored back missing, Anchors.find riskPlan plainComponents = .ok a ∧
        assembly.blueprint.entries = front ++ restored ++ back ∧
        List.Forall₂ a.Settles scatteredProposal.ordered (front ++ back) ∧
        a.ClosesAt front back ∧
        missing.Sublist (riskPlan.sections.filter (·.isProtected)) ∧
        (∀ s ∈ missing, ∀ e ∈ front ++ back, ¬ s.Mentioned e.data) ∧
        List.Forall₂ a.ShowsText missing restored ∧
        assembly.warnings.filterMap AssemblyWarning.restoredTitle? = missing.map (·.title) := by
  have hdistinct : DistinctIds plainComponents := by decide
  obtain ⟨assembly, hrun, hmapped⟩ :=
    exists_mapped hdistinct riskPlan_equipped scatteredProposal_usable {} {}
  exact ⟨hdistinct, assembly, hrun, hmapped, assemble_mentions_protected hdistinct hrun hmapped⟩

/-- Without the slides that put sections back, a deck from proposals has one slide for each
proposal, in the stable order of their positions: of the component that the proposal names,
with the payload as it is or mended, or else of text. The slides count up from zero, and
proposals at different positions can be listed in any order. -/
theorem assemble_settles_each_proposal (hdistinct : DistinctIds components)
    (h : assemble table content components p (some proposal) = .ok assembly)
    (hmapped : assembly.strategy = .mapped) :
    (∃ a ordered front restored back missing, Anchors.find content components = .ok a ∧
      a.usable = components.filter (·.isPublic) ∧
      IsStableOrder proposal.entries ordered ∧
      assembly.blueprint.entries = front ++ restored ++ back ∧
      List.Forall₂ a.ShowsText missing restored ∧
      assembly.warnings.filterMap AssemblyWarning.restoredTitle? = missing.map (·.title) ∧
      List.Forall₂ a.Settles ordered (front ++ back)) ∧
    assembly.blueprint.entries.map (·.position) =
      List.range assembly.blueprint.entries.length ∧
    ((proposal.entries.map (·.position)).Nodup → ∀ other : Proposal,
      proposal.entries.Perm other.entries →
        assemble table content components p (some other) = .ok assembly) := by
  obtain ⟨a, hfind, hreconcile⟩ := exists_reconcile_of_mapped h hmapped
  obtain ⟨front, restored, back, missing, hreconciles⟩ :=
    Anchors.exists_reconciles (Anchors.regular_of_find hdistinct hfind) hreconcile
  refine ⟨?_, hreconciles.positions, ?_⟩
  · exact ⟨a, proposal.ordered, front, restored, back, missing, hfind,
      (Anchors.find_eq_ok hfind).1, proposal.isStableOrder_ordered, hreconciles.slides,
      hreconciles.putsBack.texts, hreconciles.warned, hreconciles.settled⟩
  · intro hpositions other hperm
    rw [← h]
    unfold assemble
    simp only [Anchors.reconcile_congr (Proposal.ordered_eq_of_perm hpositions hperm)]

/-- The scattered slides give the same deck when they are listed the other way round. -/
theorem assemble_settles_each_proposal_scattered :
    DistinctIds plainComponents ∧ ∃ assembly,
      assemble {} riskPlan plainComponents {} (some scatteredProposal) = .ok assembly ∧
      assembly.strategy = .mapped ∧
      (∃ a ordered front restored back missing,
        Anchors.find riskPlan plainComponents = .ok a ∧
        a.usable = plainComponents.filter (·.isPublic) ∧
        IsStableOrder scatteredProposal.entries ordered ∧
        assembly.blueprint.entries = front ++ restored ++ back ∧
        List.Forall₂ a.ShowsText missing restored ∧
        assembly.warnings.filterMap AssemblyWarning.restoredTitle? = missing.map (·.title) ∧
        List.Forall₂ a.Settles ordered (front ++ back)) ∧
      assembly.blueprint.entries.map (·.position) =
        List.range assembly.blueprint.entries.length ∧
      assemble {} riskPlan plainComponents {} (some ⟨scatteredProposal.entries.reverse⟩) =
        .ok assembly := by
  have hdistinct : DistinctIds plainComponents := by decide
  obtain ⟨assembly, hrun, hmapped⟩ :=
    exists_mapped hdistinct riskPlan_equipped scatteredProposal_usable {} {}
  obtain ⟨hslides, hpositions, hlisted⟩ :=
    assemble_settles_each_proposal hdistinct hrun hmapped
  have hreversed := hlisted (by decide) ⟨_⟩ (List.reverse_perm _).symm
  exact ⟨hdistinct, assembly, hrun, hmapped, hslides, hpositions, hreversed⟩

end SlideDeck
