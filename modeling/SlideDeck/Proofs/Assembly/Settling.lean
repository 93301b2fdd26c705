import SlideDeck.Assembly.Reconciling
import SlideDeck.Proofs.Assembly.Adoption
import SlideDeck.Proofs.Assembly.Preference
import SlideDeck.Proofs.Blueprint.Numbering

/-!
# What becomes of proposals

Proposals are taken in the order of their positions, and each gives one slide: of the
component that it names, if there is one that adopts its payload, or else of text.
-/

namespace SlideDeck

/-! ## The order of proposals -/

/-- Proposals by their positions, where those of one position keep their order. -/
structure IsStableOrder (proposals ordered : List ProposedSlide) : Prop where
  perm : ordered.Perm proposals
  ascending : ordered.Pairwise fun x y => x.position ≤ y.position
  stable : ∀ position, (ordered.filter fun x => x.position == position) =
    proposals.filter fun x => x.position == position

namespace Proposal

/-- The proposals in the order in which they are settled. -/
def ordered (proposal : Proposal) : List ProposedSlide :=
  proposal.entries.mergeSort fun x y => x.position ≤ y.position

theorem ordered_perm (proposal : Proposal) : proposal.ordered.Perm proposal.entries :=
  List.mergeSort_perm _ _

theorem isStableOrder_ordered (proposal : Proposal) :
    IsStableOrder proposal.entries proposal.ordered where
  perm := proposal.ordered_perm
  ascending := pairwise_mergeSort_key _ proposal.entries
  stable := filter_mergeSort_key _ proposal.entries

/-- Proposals at different positions are settled in one order, however they are listed. -/
theorem ordered_eq_of_perm {proposal other : Proposal}
    (hdistinct : (proposal.entries.map (·.position)).Nodup)
    (hperm : proposal.entries.Perm other.entries) : proposal.ordered = other.ordered :=
  mergeSort_key_eq_of_perm hdistinct hperm

end Proposal

namespace Anchors

/-! ## One proposal -/

/-- A public component adopts the payload of a proposal that names it. -/
def Usable (a : Anchors) (proposed : ProposedSlide) : Prop :=
  ∃ c ∈ a.usable, c.id = proposed.componentId ∧ ∃ data, c.Adopts proposed.data data

theorem usable_iff {a : Anchors} {components : List Component}
    (h : a.usable = components.filter (·.isPublic)) {proposed : ProposedSlide} :
    a.Usable proposed ↔ ∃ c ∈ components, c.isPublic = true ∧ c.id = proposed.componentId ∧
      ∃ data, c.Adopts proposed.data data := by
  unfold Usable
  simp only [h, List.mem_filter, and_assoc]

/-- The slide that a proposal gives: of the component that it names, if that adopts the
payload, or else of text. -/
inductive Settles (a : Anchors) (proposed : ProposedSlide) (e : BlueprintEntry) : Prop
  | adopted {c : Component} {data : Json} (hmem : c ∈ a.usable)
      (hid : c.id = proposed.componentId) (hadopts : c.Adopts proposed.data data)
      (hshows : e.Shows c data)
  | replaced {data : Json} (hunusable : ¬ a.Usable proposed)
      (hshows : e.Shows a.narrative data)

theorem Settles.move {a : Anchors} {proposed : ProposedSlide} {e : BlueprintEntry}
    (h : a.Settles proposed e) (position : Nat) :
    a.Settles proposed { e with position := position } := by
  cases h with
  | adopted hmem hid hadopts hshows => exact .adopted hmem hid hadopts (hshows.move position)
  | replaced hunusable hshows => exact .replaced hunusable (hshows.move position)

/-- Settling a proposal: the slide that it gives, and whether it counts. -/
inductive Settlement (a : Anchors) (proposed : ProposedSlide) : Reconciled → Prop
  | adopted {e : BlueprintEntry} {warnings : List AssemblyWarning}
      (husable : a.Usable proposed) (hsettles : a.Settles proposed e) :
      Settlement a proposed ⟨[e], warnings, 1⟩
  | replaced {e : BlueprintEntry} {warnings : List AssemblyWarning}
      (hunusable : ¬ a.Usable proposed) (hsettles : a.Settles proposed e) :
      Settlement a proposed ⟨[e], warnings, 0⟩

variable {a : Anchors}

theorem settlement (hdistinct : DistinctIds a.usable) (content : Content) (position : Nat)
    (proposed : ProposedSlide) :
    a.Settlement proposed (a.settle content position proposed) := by
  unfold settle
  dsimp only
  split
  next hfind =>
    have hunusable : ¬ a.Usable proposed := by
      rintro ⟨c, hmem, hid, _⟩
      exact List.find?_eq_none.mp hfind c hmem (beq_iff_eq.mpr hid)
    exact .replaced hunusable (.replaced hunusable (BlueprintEntry.Shows.of ..))
  next c hfind =>
    obtain ⟨hmem, hid⟩ := hdistinct.find?_eq_some_iff.mp hfind
    have hadopted : ∀ data, (c.conform proposed.data).data? = some data →
        a.Usable proposed ∧ a.Settles proposed (.of position c data) := by
      intro data hdata
      have hadopts := Component.conform_data?_iff.mp hdata
      exact ⟨⟨c, hmem, hid, data, hadopts⟩,
        .adopted hmem hid hadopts (BlueprintEntry.Shows.of ..)⟩
    split
    next data hconform =>
      obtain ⟨husable, hsettles⟩ := hadopted data (congrArg Conformed.data? hconform)
      exact .adopted husable hsettles
    next data dropped hconform =>
      obtain ⟨husable, hsettles⟩ := hadopted data (congrArg Conformed.data? hconform)
      exact .adopted husable hsettles
    next reason hconform =>
      have hunusable : ¬ a.Usable proposed := by
        rintro ⟨other, hother, hotherid, data, hadopts⟩
        -- ids are distinct, so the component that was found is the only one to ask
        rw [hdistinct.eq_of_id_eq hother hmem (hotherid.trans hid.symm),
          ← Component.conform_data?_iff, hconform] at hadopts
        cases hadopts
      exact .replaced hunusable (.replaced hunusable (BlueprintEntry.Shows.of ..))

/-! ## All proposals -/

theorem settles_settleAll (hdistinct : DistinctIds a.usable) (content : Content) (start : Nat)
    (proposals : List ProposedSlide) :
    List.Forall₂ a.Settles proposals (a.settleAll content start proposals).entries := by
  induction proposals generalizing start with
  | nil => exact .nil
  | cons proposed rest ih =>
      unfold settleAll
      cases hsettle : a.settle content start proposed with
      | mk entries warnings accepted =>
          have hsettlement := settlement hdistinct content start proposed
          rw [hsettle] at hsettlement
          cases hsettlement with
          | adopted _ hsettles => exact .cons hsettles (ih (start + 1))
          | replaced _ hsettles => exact .cons hsettles (ih (start + 1))

/-- Nothing counts when no proposal is of use. -/
theorem accepted_settleAll_eq_zero_iff (hdistinct : DistinctIds a.usable) (content : Content)
    (start : Nat) (proposals : List ProposedSlide) :
    (a.settleAll content start proposals).accepted = 0 ↔ ∀ x ∈ proposals, ¬ a.Usable x := by
  induction proposals generalizing start with
  | nil => simp [settleAll]
  | cons proposed rest ih =>
      unfold settleAll
      rw [List.forall_mem_cons, ← ih (start + 1)]
      cases hsettle : a.settle content start proposed with
      | mk entries warnings accepted =>
          have hsettlement := settlement hdistinct content start proposed
          rw [hsettle] at hsettlement
          cases hsettlement with
          | adopted husable _ => simp [husable]
          | replaced hunusable _ => simp [hunusable]

end Anchors

end SlideDeck
