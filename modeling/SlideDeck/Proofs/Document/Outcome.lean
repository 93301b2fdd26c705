import SlideDeck.Library.Closings
import SlideDeck.Library.Titles
import SlideDeck.Proofs.Blueprint.Check
import SlideDeck.Proofs.Document.Composition

/-!
# What comes of a blueprint

A blueprint without slides has no document, nor has one with two slides at one position,
nor one with a slide that there is nothing to render from. Every other blueprint has one,
with a page for each slide in the order of their positions. How the slides are listed makes
no difference to it, nor to which of the lost slides is named.
-/

namespace SlideDeck

namespace BlueprintEntry

variable {e : BlueprintEntry} {k : Catalogue}

/-- There is nothing to render a slide from: it has no snapshot, and no stored component has
its id. -/
def Lost (e : BlueprintEntry) (k : Catalogue) : Prop :=
  e.snapshot = none ∧ ∀ c ∈ k.components, c.id ≠ e.componentId

theorem resolve_eq_error_iff {error : CompositionError} :
    e.resolve k = .error error ↔ e.Lost k ∧ error = .unresolved e.position e.componentId := by
  unfold resolve Lost Catalogue.find?
  cases e.snapshot with
  | some s => simp
  | none =>
      cases hfind : k.components.find? fun c => c.id == e.componentId with
      | some c =>
          refine iff_of_false nofun fun ⟨⟨_, hnone⟩, _⟩ => ?_
          have hid := List.find?_some hfind
          exact hnone c (List.mem_of_find?_eq_some hfind) (beq_iff_eq.mp hid)
      | none =>
          simp only [List.find?_eq_none, beq_iff_eq] at hfind
          simp only [Except.error.injEq]
          exact ⟨fun h => ⟨⟨trivial, hfind⟩, h.symm⟩, fun h => h.2.symm⟩

theorem exists_resolve_iff : (∃ s, e.resolve k = .ok s) ↔ ¬ e.Lost k := by
  cases hresolve : e.resolve k with
  | ok s =>
      refine iff_of_true ⟨s, rfl⟩ fun hlost => ?_
      have herror := resolve_eq_error_iff.mpr ⟨hlost, rfl⟩
      rw [hresolve] at herror
      cases herror
  | error error => exact iff_of_false nofun fun h => h (resolve_eq_error_iff.mp hresolve).1

end BlueprintEntry

namespace PageSpec

variable (spec : PageSpec) (limits : ExecutionLimits) (theme : Theme)

@[simp]
theorem position_compose : (spec.compose limits theme).position = spec.position := by
  unfold compose render
  split <;> rfl

@[simp]
theorem componentId_compose : (spec.compose limits theme).componentId = spec.componentId := by
  unfold compose render
  split <;> rfl

end PageSpec

namespace Blueprint

variable {b other : Blueprint} {k : Catalogue} {limits : ExecutionLimits} {theme : Theme}
  {title : String}

/-! ## Failures -/

section Specifications

variable {e : BlueprintEntry} {front back entries : List BlueprintEntry}
  {error : CompositionError}

theorem pageSpecs_cons_of_lost (h : e.Lost k) (back : List BlueprintEntry) :
    pageSpecs k (e :: back) = .error (.unresolved e.position e.componentId) := by
  rw [pageSpecs, BlueprintEntry.resolve_eq_error_iff.mpr ⟨h, rfl⟩]
  rfl

theorem pageSpecs_cons_eq_error_iff (h : ¬ e.Lost k) :
    pageSpecs k (e :: back) = .error error ↔ pageSpecs k back = .error error := by
  obtain ⟨s, hresolve⟩ := BlueprintEntry.exists_resolve_iff.mpr h
  rw [pageSpecs, hresolve]
  cases pageSpecs k back <;> simp [bind, Except.bind, pure, Except.pure]

theorem pageSpecs_append_of_lost (hfront : ∀ x ∈ front, ¬ x.Lost k) (h : e.Lost k)
    (back : List BlueprintEntry) :
    pageSpecs k (front ++ e :: back) = .error (.unresolved e.position e.componentId) := by
  induction front with
  | nil => exact pageSpecs_cons_of_lost h back
  | cons first front ih =>
      obtain ⟨hfirst, hfront⟩ := List.forall_mem_cons.mp hfront
      exact (pageSpecs_cons_eq_error_iff hfirst).mpr (ih hfront)

/-- The error is that of the first lost slide. -/
theorem pageSpecs_eq_error_iff :
    pageSpecs k entries = .error error ↔
      ∃ front e back, entries = front ++ e :: back ∧ (∀ x ∈ front, ¬ x.Lost k) ∧
        e.Lost k ∧ error = .unresolved e.position e.componentId := by
  constructor
  · intro h
    induction entries with
    | nil => cases h
    | cons first rest ih =>
        by_cases hlost : first.Lost k
        · rw [pageSpecs_cons_of_lost hlost] at h
          cases h
          exact ⟨[], first, rest, rfl, nofun, hlost, rfl⟩
        · obtain ⟨front, e, back, rfl, hfront, herror⟩ :=
            ih ((pageSpecs_cons_eq_error_iff hlost).mp h)
          exact ⟨first :: front, e, back, rfl, List.forall_mem_cons.mpr ⟨hlost, hfront⟩, herror⟩
  · rintro ⟨front, e, back, rfl, hfront, hlost, rfl⟩
    exact pageSpecs_append_of_lost hfront hlost back

end Specifications

/-- A slide is the first lost one in the order of positions just when it is the one at the
lowest position. -/
theorem DistinctPositions.first_lost_iff (h : b.DistinctPositions) {e : BlueprintEntry} :
    (∃ front back, b.sorted.entries = front ++ e :: back ∧ (∀ x ∈ front, ¬ x.Lost k) ∧
        e.Lost k) ↔
      e ∈ b.entries ∧ e.Lost k ∧ ∀ x ∈ b.entries, x.Lost k → e.position ≤ x.position := by
  have hascending := h.pairwise_sorted
  constructor
  · rintro ⟨front, back, hsorted, hfront, hlost⟩
    rw [hsorted, List.pairwise_append, List.pairwise_cons] at hascending
    obtain ⟨_, ⟨hback, _⟩, _⟩ := hascending
    have hmem : ∀ x, x ∈ b.entries ↔ x ∈ front ++ e :: back := fun x =>
      hsorted ▸ b.sorted_perm.mem_iff.symm
    refine ⟨(hmem e).mpr List.mem_append_cons_self, hlost, fun x hx hxlost => ?_⟩
    rcases List.mem_append.mp ((hmem x).mp hx) with hx | hx
    · exact absurd hxlost (hfront x hx)
    · rcases List.mem_cons.mp hx with rfl | hx
      · exact Nat.le_refl _
      · exact Nat.le_of_lt (hback x hx)
  · rintro ⟨hmem, hlost, hlowest⟩
    obtain ⟨front, back, hsorted⟩ := List.append_of_mem (b.sorted_perm.mem_iff.mpr hmem)
    refine ⟨front, back, hsorted, fun x hx hxlost => ?_, hlost⟩
    rw [hsorted, List.pairwise_append] at hascending
    have hlt := hascending.2.2 x hx e List.mem_cons_self
    have hx' : x ∈ b.sorted.entries := hsorted ▸ List.mem_append_left _ hx
    exact absurd (hlowest x (b.sorted_perm.mem_iff.mp hx') hxlost) (Nat.not_le.mpr hlt)

/-- Why a blueprint has no document: it has no slides, a position is taken a second time, or
of slides at different positions some are lost, and the one at the lowest position is
named. -/
inductive Fails (b : Blueprint) (k : Catalogue) : CompositionError → Prop
  | empty (hentries : b.entries = []) : Fails b k (.blueprint .empty)
  | repeated {position : Nat} (hrepeats : b.FirstRepeats position) :
      Fails b k (.blueprint (.duplicatePosition position))
  | lost {e : BlueprintEntry} (hdistinct : b.DistinctPositions) (hmem : e ∈ b.entries)
      (hlost : e.Lost k) (hlowest : ∀ x ∈ b.entries, x.Lost k → e.position ≤ x.position) :
      Fails b k (.unresolved e.position e.componentId)

theorem compose_eq_error_iff {error : CompositionError} :
    b.compose k limits theme title = .error error ↔ b.Fails k error := by
  have hstages : b.compose k limits theme title = .error error ↔
      (∃ fault, b.check = .error fault ∧ error = .blueprint fault) ∨
        b.check = .ok () ∧ pageSpecs k b.sorted.entries = .error error := by
    unfold compose
    cases b.check with
    | error fault => simp [eq_comm]
    | ok => cases pageSpecs k b.sorted.entries <;> simp [bind, Except.bind, pure, Except.pure]
  rw [hstages]
  constructor
  · rintro (⟨fault, hcheck, rfl⟩ | ⟨hcheck, hspecs⟩)
    · rcases check_eq_error_iff.mp hcheck with ⟨hentries, rfl⟩ | ⟨position, hrepeats, rfl⟩
      · exact .empty hentries
      · exact .repeated hrepeats
    · obtain ⟨_, hdistinct⟩ := check_eq_ok_iff.mp hcheck
      obtain ⟨front, e, back, hsorted, hfront, hlost, rfl⟩ := pageSpecs_eq_error_iff.mp hspecs
      obtain ⟨hmem, hlost, hlowest⟩ :=
        hdistinct.first_lost_iff.mp ⟨front, back, hsorted, hfront, hlost⟩
      exact .lost hdistinct hmem hlost hlowest
  · intro hfails
    cases hfails with
    | empty hentries => exact .inl ⟨_, check_eq_error_iff.mpr (.inl ⟨hentries, rfl⟩), rfl⟩
    | repeated hrepeats =>
        exact .inl ⟨_, check_eq_error_iff.mpr (.inr ⟨_, hrepeats, rfl⟩), rfl⟩
    | lost hdistinct hmem hlost hlowest =>
        obtain ⟨front, back, hsorted, hfront, hlost⟩ :=
          hdistinct.first_lost_iff.mpr ⟨hmem, hlost, hlowest⟩
        refine .inr ⟨check_eq_ok_iff.mpr ⟨List.ne_nil_of_mem hmem, hdistinct⟩, ?_⟩
        exact pageSpecs_eq_error_iff.mpr ⟨front, _, back, hsorted, hfront, hlost, rfl⟩

/-! ## Documents -/

/-- A blueprint has slides, all at different positions, and none of them is lost. -/
structure Composable (b : Blueprint) (k : Catalogue) : Prop where
  nonempty : b.entries ≠ []
  distinct : b.DistinctPositions
  found : ∀ e ∈ b.entries, ¬ e.Lost k

/-- The blueprints that are composable are those that have a document. -/
theorem composable_iff : b.Composable k ↔ ∃ d, b.compose k limits theme title = .ok d := by
  constructor
  · intro h
    cases hcompose : b.compose k limits theme title with
    | ok d => exact ⟨d, rfl⟩
    | error error =>
        cases compose_eq_error_iff.mp hcompose with
        | empty hentries => exact absurd hentries h.nonempty
        | repeated hrepeats => exact absurd h.distinct (exists_firstRepeats_iff.mp ⟨_, hrepeats⟩)
        | lost _ hmem hlost _ => exact absurd hlost (h.found _ hmem)
  · rintro ⟨d, hcompose⟩
    obtain ⟨hnonempty, hdistinct⟩ := check_eq_ok_iff.mp (compose_eq_ok_iff.mp hcompose).1
    refine ⟨hnonempty, hdistinct, fun e hmem => BlueprintEntry.exists_resolve_iff.mp ?_⟩
    obtain ⟨s, hresolve, _⟩ := exists_page_of_compose hcompose hmem
    exact ⟨s, hresolve⟩

/-- The pages carry the positions and the ids of the slides in the order of positions. -/
theorem map_pages_of_compose {d : Document} (h : b.compose k limits theme title = .ok d) :
    d.pages.map (fun p => (p.position, p.componentId)) =
      b.sorted.entries.map fun e => (e.position, e.componentId) := by
  have hpages := forall₂_pages_of_compose h
  rw [← List.forall₂_eq_eq_eq, List.forall₂_map_left_iff, List.forall₂_map_right_iff]
  refine hpages.flip.imp ?_
  rintro _ e ⟨s, _, rfl⟩
  rw [PageSpec.position_compose, PageSpec.componentId_compose]
  rfl

theorem pairwise_pages_of_compose {d : Document}
    (h : b.compose k limits theme title = .ok d) :
    d.pages.Pairwise fun p q => p.position < q.position := by
  have hdistinct := (composable_iff.mpr ⟨d, h⟩).distinct
  have hascending : (b.sorted.entries.map fun e => (e.position, e.componentId)).Pairwise
      fun x y => x.1 < y.1 := List.pairwise_map.mpr hdistinct.pairwise_sorted
  rwa [← map_pages_of_compose h, List.pairwise_map] at hascending

/-- The check fails for a repeated position just when there is one. -/
theorem compose_eq_duplicatePosition_iff :
    (∃ position,
        b.compose k limits theme title = .error (.blueprint (.duplicatePosition position))) ↔
      ¬ b.DistinctPositions := by
  rw [← exists_firstRepeats_iff]
  refine exists_congr fun position => compose_eq_error_iff.trans ⟨fun h => ?_, .repeated⟩
  cases h with
  | repeated hrepeats => exact hrepeats

/-- A slide is named as lost just when one is, and the positions are different. -/
theorem compose_eq_unresolved_iff :
    (∃ position id, b.compose k limits theme title = .error (.unresolved position id)) ↔
      b.DistinctPositions ∧ ∃ e ∈ b.entries, e.Lost k := by
  constructor
  · rintro ⟨position, id, h⟩
    cases compose_eq_error_iff.mp h with
    | lost hdistinct hmem hlost _ => exact ⟨hdistinct, _, hmem, hlost⟩
  · rintro ⟨hdistinct, e, hmem, hlost⟩
    cases hcompose : b.compose k limits theme title with
    | ok d => exact absurd hlost ((composable_iff.mpr ⟨d, hcompose⟩).found e hmem)
    | error error =>
        cases compose_eq_error_iff.mp hcompose with
        | empty hentries => exact absurd hentries (List.ne_nil_of_mem hmem)
        | repeated hrepeats => exact absurd hdistinct (exists_firstRepeats_iff.mp ⟨_, hrepeats⟩)
        | lost => exact ⟨_, _, rfl⟩

/-- The order in which slides at different positions are listed makes no difference. -/
theorem DistinctPositions.compose_eq_of_perm (h : b.DistinctPositions)
    (hperm : b.entries.Perm other.entries) :
    other.compose k limits theme title = b.compose k limits theme title := by
  unfold compose
  rw [h.check_eq_of_perm hperm, h.sorted_eq_of_perm hperm]

/-- A blueprint is composed, with one page for each slide in strictly ascending positions, or
it fails for one reason: it is empty, or a position is taken twice, or else slides are lost
and the one at the lowest position is named. Nothing of this depends on the order in which
slides at different positions are listed. -/
theorem outcome_of_compose (b : Blueprint) (k : Catalogue) (limits : ExecutionLimits)
    (theme : Theme) (title : String) :
    (∀ error, b.compose k limits theme title = .error error ↔ b.Fails k error) ∧
    ((∃ position,
        b.compose k limits theme title = .error (.blueprint (.duplicatePosition position))) ↔
      ¬ b.DistinctPositions) ∧
    ((∃ position id, b.compose k limits theme title = .error (.unresolved position id)) ↔
      b.DistinctPositions ∧ ∃ e ∈ b.entries, e.Lost k) ∧
    (b.Composable k ↔ ∃ d, b.compose k limits theme title = .ok d) ∧
    (∀ d, b.compose k limits theme title = .ok d →
      (d.pages.map fun p => (p.position, p.componentId)).Perm
          (b.entries.map fun e => (e.position, e.componentId)) ∧
        d.pages.Pairwise fun p q => p.position < q.position) ∧
    ∀ other : Blueprint, b.DistinctPositions → b.entries.Perm other.entries →
      other.compose k limits theme title = b.compose k limits theme title := by
  refine ⟨fun _ => compose_eq_error_iff, compose_eq_duplicatePosition_iff,
    compose_eq_unresolved_iff, composable_iff, fun d h => ⟨?_, pairwise_pages_of_compose h⟩,
    fun _ hdistinct hperm => hdistinct.compose_eq_of_perm hperm⟩
  rw [map_pages_of_compose h]
  exact b.sorted_perm.map _

/-- Slides at positions with gaps, of which the last one comes first and takes its component
from the catalogue. -/
def scatteredDeck : Blueprint :=
  ⟨[{ position := 7, componentId := "core.thank-you", data := .object [], snapshot := none },
    .of 2 Library.sectionDivider (.object [("sectionName", .string "Part")]),
    .of 0 Library.minimalCover (.object [("title", .string "Deck")])]⟩

theorem scatteredDeck_composable : scatteredDeck.Composable ⟨[Library.thankYou]⟩ := by
  refine ⟨List.cons_ne_nil _ _, by decide, ?_⟩
  simp [scatteredDeck, BlueprintEntry.Lost, BlueprintEntry.of, Library.thankYou]

/-- The scattered slides give pages in order, listed as they are or the other way round. -/
theorem outcome_of_compose_scatteredDeck :
    ∃ d, scatteredDeck.compose ⟨[Library.thankYou]⟩ .standard .standard "Deck" = .ok d ∧
      (d.pages.map fun p => (p.position, p.componentId)) =
        [(0, "core.minimal-cover"), (2, "core.section-divider"), (7, "core.thank-you")] ∧
      Blueprint.compose ⟨scatteredDeck.entries.reverse⟩ ⟨[Library.thankYou]⟩ .standard .standard
        "Deck" = .ok d := by
  obtain ⟨_, _, _, hcomposable, hpages, hperm⟩ :=
    outcome_of_compose scatteredDeck ⟨[Library.thankYou]⟩ .standard .standard "Deck"
  obtain ⟨d, hd⟩ := hcomposable.mp scatteredDeck_composable
  obtain ⟨hlabels, hascending⟩ := hpages d hd
  refine ⟨d, hd, ?_,
    (hperm _ scatteredDeck_composable.distinct (List.reverse_perm _).symm).trans hd⟩
  have hlabelsAscending : (d.pages.map fun p => (p.position, p.componentId)).Pairwise
      fun x y => x.1 < y.1 := List.pairwise_map.mpr hascending
  -- two strictly ascending lists of the same elements are the same
  exact List.Perm.eq_of_pairwise (fun _ _ _ _ hlt hgt => absurd hgt (Nat.lt_asymm hlt))
    hlabelsAscending (by decide) (hlabels.trans (by decide))

end Blueprint

end SlideDeck
