import SlideDeck.Proofs.Assembly.Preconditions
import SlideDeck.Proofs.Blueprint.Density
import SlideDeck.Proofs.Document.Outcome

/-!
# Decks that outlive the catalogue

A slide that has a snapshot is rendered from it, whatever has become of its component. The
slides of an assembly all have snapshots, and they are at the positions from zero on. So an
assembled deck always has a document, and the catalogue has no part in it.
-/

namespace SlideDeck

namespace Blueprint

variable {b : Blueprint}

/-! ## Blueprints without the catalogue -/

/-- All slides have snapshots. -/
def IsFrozen (b : Blueprint) : Prop := ∀ e ∈ b.entries, e.snapshot ≠ none

theorem pageSpecs_eq_of_snapshots {entries : List BlueprintEntry}
    (h : ∀ e ∈ entries, e.snapshot ≠ none) (k k' : Catalogue) :
    pageSpecs k entries = pageSpecs k' entries := by
  induction entries with
  | nil => rfl
  | cons e rest ih =>
      obtain ⟨hfirst, hrest⟩ := List.forall_mem_cons.mp h
      obtain ⟨s, hs⟩ := Option.ne_none_iff_exists'.mp hfirst
      have hresolve : ∀ k : Catalogue, e.resolve k = .ok s := by
        intro k
        rw [BlueprintEntry.resolve, hs]
      rw [pageSpecs, pageSpecs, hresolve, hresolve, ih hrest]

namespace IsFrozen

theorem compose_eq (h : b.IsFrozen) (k k' : Catalogue) (limits : ExecutionLimits)
    (theme : Theme) (title : String) :
    b.compose k limits theme title = b.compose k' limits theme title := by
  have hsorted : ∀ e ∈ b.sorted.entries, e.snapshot ≠ none := fun e he =>
    h e (b.sorted_perm.mem_iff.mp he)
  rw [compose, compose, pageSpecs_eq_of_snapshots hsorted k k']

theorem composable (h : b.IsFrozen) (hentries : b.entries ≠ []) (hdense : b.isDense = true)
    (k : Catalogue) : b.Composable k where
  nonempty := hentries
  distinct := distinctPositions_of_isDense hdense
  found := fun e he hlost => h e he hlost.1

end IsFrozen

end Blueprint

/-! ## Assemblies -/

variable {table : SelectionTable} {content : Content} {components : List Component}
  {p : Parameters} {proposal : Option Proposal} {assembly : Assembly}

/-- Every slide of an assembly shows a public component, as the component is now. -/
theorem showsEntry_of_assemble
    (h : assemble table content components p proposal = .ok assembly) :
    ∃ a : Anchors, a.usable = components.filter (·.isPublic) ∧
      ∀ e ∈ assembly.blueprint.entries, a.ShowsEntry e := by
  obtain ⟨a, hfind, hassembles⟩ := assemble_eq_ok_iff.mp h
  obtain ⟨husable, hsound⟩ := Anchors.find_eq_ok hfind
  refine ⟨a, husable, ?_⟩
  cases hassembles with
  | mapped hreconcile => exact hsound.showsEntry_reconcile hreconcile
  | fallenBack _ => exact hsound.showsEntry_ruleBased table content p
  | ruleBased => exact hsound.showsEntry_ruleBased table content p

theorem isFrozen_of_assemble
    (h : assemble table content components p proposal = .ok assembly) :
    assembly.blueprint.IsFrozen := by
  obtain ⟨a, _, hshows⟩ := showsEntry_of_assemble h
  intro e he
  obtain ⟨c, _, _, hsnapshot, _⟩ := hshows e he
  rw [hsnapshot]
  exact Option.some_ne_none _

/-- An assembled deck has a document, and it is the same on all catalogues: each page is at
the place of its slide and shows the component of this slide. -/
theorem compose_of_assemble
    (h : assemble table content components p proposal = .ok assembly)
    (limits : ExecutionLimits) (theme : Theme) (title : String) (k k' : Catalogue) :
    ∃ d, assembly.blueprint.compose k limits theme title = .ok d ∧
      assembly.blueprint.compose k' limits theme title = .ok d ∧
      d.pages.map (fun page => (page.position, page.componentId)) =
        assembly.blueprint.entries.mapIdx fun i e => (i, e.componentId) := by
  obtain ⟨hentries, hdense⟩ := isDense_of_assemble h
  have hfrozen := isFrozen_of_assemble h
  obtain ⟨d, hd⟩ := Blueprint.composable_iff.mp (hfrozen.composable hentries hdense k)
  refine ⟨d, hd, (hfrozen.compose_eq k' k limits theme title).trans hd, ?_⟩
  rw [Blueprint.map_pages_of_compose hd, Blueprint.sorted_of_isDense hdense]
  exact Blueprint.map_position_of_isDense hdense fun i e => (i, e.componentId)

/-- The library with another component under the id of its text slide. -/
def otherTextCatalogue : Catalogue :=
  ⟨[Library.minimalCover, { Library.thankYou with id := Library.fullTextNarrative.id }]⟩

/-- The stray slide and the section that is put back have the same pages without any
components and with another one in the place of theirs. -/
theorem compose_of_assemble_strayProposal :
    ∃ assembly, assemble {} costPlan plainComponents {} (some strayProposal) = .ok assembly ∧
      ∃ d, assembly.blueprint.compose .empty .standard .standard "Plan" = .ok d ∧
        assembly.blueprint.compose otherTextCatalogue .standard .standard "Plan" = .ok d ∧
        d.pages.map (fun page => (page.position, page.componentId)) =
          [(0, "core.full-text-narrative"), (1, "core.full-text-narrative")] := by
  have hids : (assemble {} costPlan plainComponents {} (some strayProposal)).toOption.map
      (fun assembly => assembly.blueprint.entries.mapIdx fun i e => (i, e.componentId)) =
      some [(0, "core.full-text-narrative"), (1, "core.full-text-narrative")] := by
    decide +kernel
  cases hrun : assemble {} costPlan plainComponents {} (some strayProposal) with
  | error e =>
      rw [hrun] at hids
      cases hids
  | ok assembly =>
      rw [hrun] at hids
      obtain ⟨d, hd, hother, hpages⟩ :=
        compose_of_assemble hrun .standard .standard "Plan" .empty otherTextCatalogue
      exact ⟨assembly, rfl, d, hd, hother, hpages.trans (Option.some.inj hids)⟩

end SlideDeck
