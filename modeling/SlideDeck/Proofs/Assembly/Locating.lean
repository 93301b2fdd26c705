import SlideDeck.Proofs.Assembly.Reconciliation
import SlideDeck.Proofs.Related

/-!
# Where the slides stand that warnings tell of

A warning about a proposal names the place that the proposal has among all of them. Its slide
stands at this place too, unless sections are put back in front of it. The slide then stands as
many places behind as there are sections that are put back.
-/

namespace SlideDeck

/-! ## Places -/

/-- The place of an element once some others have been put in behind the first ones. -/
def shifted (first others place : Nat) : Nat := if place < first then place else place + others

theorem shifted_zero (first place : Nat) : shifted first 0 place = place := ite_self _

theorem shifted_of_lt {first place : Nat} (h : place < first) (others : Nat) :
    shifted first others place = place := if_pos h

theorem getElem?_shifted {α : Type} (front others back : List α) (place : Nat) :
    (front ++ others ++ back)[shifted front.length others.length place]? =
      (front ++ back)[place]? := by
  unfold shifted
  rw [List.append_assoc]
  split
  next hfront => rw [List.getElem?_append_left hfront, List.getElem?_append_left hfront]
  next hback =>
    rw [List.getElem?_append_right (by omega), List.getElem?_append_right (by omega),
      List.getElem?_append_right (by omega)]
    congr 1
    omega

/-! ## Warnings -/

namespace AssemblyWarning

/-- The position that a warning names. -/
def position? : AssemblyWarning → Option Nat
  | .unknownComponent position _ | .repairedEntry position _ _ | .replacedEntry position _ _ =>
    some position
  | _ => none

theorem position?_eq_none {w : AssemblyWarning} (h : w.isAboutProposals = false) :
    w.position? = none := by
  cases w with
  | unknownComponent position id => cases h
  | repairedEntry position id dropped => cases h
  | replacedEntry position id reason => cases h
  | _ => rfl

end AssemblyWarning

namespace Anchors

/-- What a warning tells of a proposal at some place among all of them, and of its slide. -/
inductive Tells (a : Anchors) (content : Content) (place : Nat) (proposed : ProposedSlide)
    (e : BlueprintEntry) : AssemblyWarning → Prop
  /-- There is no component of that name, so the slide stands in for the proposal. -/
  | unknown (hnone : ∀ c ∈ a.usable, c.id ≠ proposed.componentId)
      (hslide : e = { a.replacement content place proposed with position := e.position }) :
      Tells a content place proposed e (.unknownComponent place proposed.componentId)
  | unavailable (hnone : ∀ c ∈ a.usable, c.id ≠ proposed.componentId)
      (hslide : e = { a.replacement content place proposed with position := e.position }) :
      Tells a content place proposed e
        (.replacedEntry place proposed.componentId "component not available")
  /-- The component does not take the payload, not even in part. -/
  | rejected {c : Component} {reason : String} (hmem : c ∈ a.usable)
      (hid : c.id = proposed.componentId) (hconform : c.conform proposed.data = .invalid reason)
      (hslide : e = { a.replacement content place proposed with position := e.position }) :
      Tells a content place proposed e (.replacedEntry place proposed.componentId reason)
  /-- The slide is of the component, with what is left of the payload. -/
  | repaired {c : Component} {data : Json} {dropped : List String} (hmem : c ∈ a.usable)
      (hid : c.id = proposed.componentId)
      (hconform : c.conform proposed.data = .repaired data dropped) (hshows : e.Shows c data) :
      Tells a content place proposed e (.repairedEntry place proposed.componentId dropped)

variable {a : Anchors} {content : Content} {p : Parameters} {proposal : Proposal}

namespace Tells

variable {place : Nat} {proposed : ProposedSlide} {e : BlueprintEntry} {w : AssemblyWarning}

theorem position?_eq (h : a.Tells content place proposed e w) : w.position? = some place := by
  cases h <;> rfl

theorem move (h : a.Tells content place proposed e w) (position : Nat) :
    a.Tells content place proposed { e with position := position } w := by
  cases h with
  | unknown hnone hslide => exact .unknown hnone (by rw [hslide])
  | unavailable hnone hslide => exact .unavailable hnone (by rw [hslide])
  | rejected hmem hid hconform hslide => exact .rejected hmem hid hconform (by rw [hslide])
  | repaired hmem hid hconform hshows => exact .repaired hmem hid hconform (hshows.move position)

end Tells

/-! ## Settling -/

/-- A proposal gives one slide, and each of its warnings tells of it. -/
theorem tells_settle (hdistinct : DistinctIds a.usable) (content : Content) (place : Nat)
    (proposed : ProposedSlide) :
    ∃ e, (a.settle content place proposed).entries = [e] ∧
      ∀ w ∈ (a.settle content place proposed).warnings, a.Tells content place proposed e w := by
  unfold settle
  dsimp only
  split
  next hfind =>
    have hnone : ∀ c ∈ a.usable, c.id ≠ proposed.componentId := fun c hc hid =>
      List.find?_eq_none.mp hfind c hc (beq_iff_eq.mpr hid)
    refine ⟨_, rfl, ?_⟩
    rw [List.forall_mem_cons, List.forall_mem_singleton]
    exact ⟨.unknown hnone rfl, .unavailable hnone rfl⟩
  next c hfind =>
    obtain ⟨hmem, hid⟩ := hdistinct.find?_eq_some_iff.mp hfind
    split
    next data hconform => exact ⟨_, rfl, fun w hw => absurd hw List.not_mem_nil⟩
    next data dropped hconform =>
      refine ⟨_, rfl, ?_⟩
      rw [List.forall_mem_singleton, hid]
      exact .repaired hmem hid hconform (BlueprintEntry.Shows.of ..)
    next reason hconform =>
      refine ⟨_, rfl, ?_⟩
      rw [List.forall_mem_singleton]
      exact .rejected hmem hid hconform rfl

/-- A warning names the place of the proposal that it tells of, and of the slide. -/
theorem tells_settleAll (hdistinct : DistinctIds a.usable) (content : Content) (start : Nat)
    (proposals : List ProposedSlide) :
    ∀ w ∈ (a.settleAll content start proposals).warnings, ∃ i proposed e,
      proposals[i]? = some proposed ∧
      (a.settleAll content start proposals).entries[i]? = some e ∧
      a.Tells content (start + i) proposed e w := by
  induction proposals generalizing start with
  | nil => exact fun w hw => absurd hw List.not_mem_nil
  | cons proposed rest ih =>
      intro w hw
      obtain ⟨e, hentries, htells⟩ := tells_settle hdistinct content start proposed
      unfold settleAll at hw ⊢
      simp only [hentries, List.singleton_append]
      rcases List.mem_append.mp hw with hw | hw
      · exact ⟨0, proposed, e, rfl, rfl, htells w hw⟩
      · obtain ⟨i, later, slide, hlater, hslide, hw⟩ := ih (start + 1) w hw
        refine ⟨i + 1, later, slide, hlater, hslide, ?_⟩
        rw [Nat.add_comm i 1, ← Nat.add_assoc]
        exact hw

/-! ## Reconciling -/

theorem position?_restore (entries : List BlueprintEntry) (sections : List Section) :
    ∀ w ∈ (a.restore entries sections).2, w.position? = none := by
  induction sections generalizing entries with
  | nil => exact fun w hw => absurd hw List.not_mem_nil
  | cons s rest ih =>
      unfold restore
      split
      next => exact ih entries
      next => exact List.forall_mem_cons.mpr ⟨rfl, ih _⟩

/-- The warnings that name positions come from settling the proposals. -/
theorem mem_settled_of_position? {b : Blueprint} {warnings : List AssemblyWarning}
    (h : a.reconcile content p proposal = some (b, warnings)) {w : AssemblyWarning}
    (hw : w ∈ warnings) {position : Nat} (hposition : w.position? = some position) :
    w ∈ (a.settled content proposal).warnings := by
  have hnamed : w.position? ≠ none := fun hnone => by
    rw [hnone] at hposition
    cases hposition
  rw [reconcile_eq] at h
  split at h
  next => cases h
  next =>
    cases h
    rcases List.mem_append.mp hw with hw | hw
    · rcases List.mem_append.mp hw with hw | hw
      · exact hw
      · exact absurd (position?_restore _ _ w hw) hnamed
    · exact absurd (w.position?_eq_none (isAboutProposals_deckWarnings p _ w hw)) hnamed

/-- The slide of the proposal that a warning tells of stands where the warning says, shifted
by the slides that put sections back. -/
theorem exists_tells (hregular : a.Regular) {b : Blueprint} {warnings : List AssemblyWarning}
    (h : a.reconcile content p proposal = some (b, warnings))
    {front restored back : List BlueprintEntry} {missing : List Section}
    (hreconciles : a.Reconciles content proposal b warnings front restored back missing)
    (hsame : Blueprint.SameSlides (a.settled content proposal).entries (front ++ back))
    {w : AssemblyWarning} (hw : w ∈ warnings) {position : Nat}
    (hposition : w.position? = some position) :
    ∃ proposed e, proposal.ordered[position]? = some proposed ∧
      b.entries[shifted front.length restored.length position]? = some e ∧
      e.position = shifted front.length restored.length position ∧
      a.Tells content position proposed e w := by
  obtain ⟨i, proposed, slide, hproposed, hslide, htells⟩ :=
    tells_settleAll hregular.distinct content 0 proposal.ordered w
      (mem_settled_of_position? h hw hposition)
  rw [Nat.zero_add] at htells
  obtain rfl : i = position := Option.some.inj (htells.position?_eq.symm.trans hposition)
  obtain ⟨_, he, place, rfl⟩ := Forall₂.exists_getElem? hsame hslide
  have hshifted : b.entries[shifted front.length restored.length i]? =
      some { slide with position := place } := by
    rw [hreconciles.slides, getElem?_shifted]
    exact he
  exact ⟨proposed, _, hproposed, hshifted,
    Blueprint.position_of_getElem? hreconciles.positions hshifted, htells.move place⟩

end Anchors

/-! ## Assemblies -/

variable {table : SelectionTable} {content : Content} {components : List Component}
  {p : Parameters} {proposal : Proposal} {assembly : Assembly}

/-- Each warning of a deck from proposals that names a position names the place that the
proposal it tells of has among all of them. The slide of this proposal stands at the same
place, shifted by the slides that put sections back if it is behind these. So all these
warnings name the places of the slides they tell of where no section is put back, and where
there is no closing slide. -/
theorem warnings_locate_slides (hdistinct : DistinctIds components)
    (h : assemble table content components p (some proposal) = .ok assembly)
    (hmapped : assembly.strategy = .mapped) :
    ∃ a front restored back missing, Anchors.find content components = .ok a ∧
      assembly.blueprint.entries = front ++ restored ++ back ∧ a.ClosesAt front back ∧
      List.Forall₂ a.ShowsText missing restored ∧
      assembly.warnings.filterMap AssemblyWarning.restoredTitle? = missing.map (·.title) ∧
      (∀ w ∈ assembly.warnings, ∀ position, w.position? = some position →
        ∃ proposed e, proposal.ordered[position]? = some proposed ∧
          assembly.blueprint.entries[shifted front.length restored.length position]? = some e ∧
          e.position = shifted front.length restored.length position ∧
          a.Tells content position proposed e w) ∧
      (missing = [] ∨ back = [] → ∀ w ∈ assembly.warnings, ∀ position,
        w.position? = some position →
          shifted front.length restored.length position = position) := by
  obtain ⟨a, hfind, hreconcile⟩ := exists_reconcile_of_mapped h hmapped
  have hregular := Anchors.regular_of_find hdistinct hfind
  obtain ⟨front, restored, back, missing, hreconciles, hsame⟩ :=
    Anchors.exists_reconciles_settled hregular hreconcile
  have htells := fun w (hw : w ∈ assembly.warnings) position
    (hposition : w.position? = some position) =>
      Anchors.exists_tells hregular hreconcile hreconciles hsame hw hposition
  refine ⟨a, front, restored, back, missing, hfind, hreconciles.slides, hreconciles.place,
    hreconciles.putsBack.texts, hreconciles.warned, htells, ?_⟩
  rintro (rfl | rfl) w hw position hposition
  · rw [List.forall₂_nil_left_iff.mp hreconciles.putsBack.texts, List.length_nil, shifted_zero]
  · obtain ⟨proposed, _, hproposed, _⟩ := htells w hw position hposition
    obtain ⟨hlt, _⟩ := List.getElem?_eq_some_iff.mp hproposed
    rw [hreconciles.settled.length_eq, List.append_nil] at hlt
    exact shifted_of_lt hlt _

/-- A single slide for the end, with a member that is not of its shape. -/
def closingProposal : Proposal :=
  ⟨[⟨0, "core.thank-you", .object [("message", .bool true)]⟩]⟩

theorem exists_closingProposal_assembly :
    ∃ assembly, assemble {} costPlan plainComponents {} (some closingProposal) = .ok assembly ∧
      assembly.strategy = .mapped ∧
      assembly.warnings = [.repairedEntry 0 "core.thank-you" ["message"],
        .restoredSection "Costs", .restoredSection "Risks"] ∧
      assembly.blueprint.entries.map (fun e => (e.position, e.componentId)) =
        [(0, "core.full-text-narrative"), (1, "core.full-text-narrative"),
          (2, "core.thank-you")] := by
  have hvalues : (assemble {} costPlan plainComponents {} (some closingProposal)).toOption.map
      (fun x => (x.strategy, x.warnings,
        x.blueprint.entries.map fun e => (e.position, e.componentId))) =
      some (.mapped, [.repairedEntry 0 "core.thank-you" ["message"], .restoredSection "Costs",
        .restoredSection "Risks"], [(0, "core.full-text-narrative"),
        (1, "core.full-text-narrative"), (2, "core.thank-you")]) := by decide +kernel
  obtain ⟨assembly, hrun, hvalue⟩ := exists_assembly_of_value hvalues
  obtain ⟨hstrategy, hrest⟩ := Prod.mk.inj hvalue
  obtain ⟨hwarnings, hentries⟩ := Prod.mk.inj hrest
  exact ⟨assembly, hrun, hstrategy, hwarnings, hentries⟩

/-- The two sections that are put back stand in front of the slide that is repaired. -/
theorem warnings_locate_slides_costPlan :
    DistinctIds plainComponents ∧ ∃ assembly,
      assemble {} costPlan plainComponents {} (some closingProposal) = .ok assembly ∧
      assembly.strategy = .mapped ∧
      .repairedEntry 0 "core.thank-you" ["message"] ∈ assembly.warnings ∧
      ∃ a front restored back missing, Anchors.find costPlan plainComponents = .ok a ∧
        assembly.blueprint.entries = front ++ restored ++ back ∧ a.ClosesAt front back ∧
        List.Forall₂ a.ShowsText missing restored ∧
        missing.map (·.title) = ["Costs", "Risks"] ∧
        ∃ proposed e, closingProposal.ordered[0]? = some proposed ∧
          assembly.blueprint.entries[shifted front.length restored.length 0]? = some e ∧
          e.position = shifted front.length restored.length 0 ∧
          a.Tells costPlan 0 proposed e (.repairedEntry 0 "core.thank-you" ["message"]) := by
  have hdistinct : DistinctIds plainComponents := by decide
  obtain ⟨assembly, hrun, hmapped, hwarnings, _⟩ := exists_closingProposal_assembly
  obtain ⟨a, front, restored, back, missing, hfind, hslides, hcloses, htexts, hwarned, htells, _⟩ :=
    warnings_locate_slides hdistinct hrun hmapped
  have hrepaired : .repairedEntry 0 "core.thank-you" ["message"] ∈ assembly.warnings := by
    rw [hwarnings]
    exact List.mem_cons_self
  rw [hwarnings] at hwarned
  exact ⟨hdistinct, assembly, hrun, hmapped, hrepaired, a, front, restored, back, missing, hfind,
    hslides, hcloses, htexts, hwarned.symm, htells _ hrepaired 0 rfl⟩

/-- At the position that a warning of a repaired slide names there is a slide of another
component, for sections have been put back in front of the repaired one. -/
theorem exists_repaired_elsewhere :
    DistinctIds plainComponents ∧ ∃ assembly,
      assemble {} costPlan plainComponents {} (some closingProposal) = .ok assembly ∧
      assembly.strategy = .mapped ∧
      .repairedEntry 0 "core.thank-you" ["message"] ∈ assembly.warnings ∧
      ∃ e, assembly.blueprint.entries[0]? = some e ∧ e.position = 0 ∧
        e.componentId ≠ "core.thank-you" := by
  obtain ⟨assembly, hrun, hmapped, hwarnings, hvalues⟩ := exists_closingProposal_assembly
  obtain ⟨e, rest, hentries, hfirst, _⟩ := List.map_eq_cons_iff.mp hvalues
  obtain ⟨hposition, hid⟩ := Prod.mk.inj hfirst
  refine ⟨by decide, assembly, hrun, hmapped, ?_, e, ?_, hposition, ?_⟩
  · rw [hwarnings]
    exact List.mem_cons_self
  · rw [hentries]
    rfl
  · rw [hid]
    decide

end SlideDeck
