import Mathlib.Data.List.Forall2
import SlideDeck.Document.Composing

/-!
# How a document comes about

A document is composed from a blueprint that passes its check and whose slides can all be
resolved. It has one page for each slide.
-/

namespace SlideDeck

/-- Where lists are related place by place, each element of the first is related to one of
the second. -/
theorem exists_rel_of_mem {α β : Type} {r : α → β → Prop} {xs : List α} {ys : List β}
    (h : List.Forall₂ r xs ys) {x : α} (hx : x ∈ xs) : ∃ y ∈ ys, r x y := by
  induction h with
  | nil => cases hx
  | cons hfirst _ ih =>
      rcases List.mem_cons.mp hx with rfl | hx
      · exact ⟨_, List.mem_cons_self, hfirst⟩
      · obtain ⟨y, hy, hrel⟩ := ih hx
        exact ⟨y, List.mem_cons_of_mem _ hy, hrel⟩

namespace Blueprint

/-- The specifications of pages are found slide by slide. -/
theorem pageSpecs_eq_ok_iff {k : Catalogue} {entries : List BlueprintEntry}
    {specs : List PageSpec} :
    pageSpecs k entries = .ok specs ↔
      List.Forall₂ (fun e spec => ∃ s, e.resolve k = .ok s ∧ spec = e.pageSpec s)
        entries specs := by
  induction entries generalizing specs with
  | nil =>
      rw [List.forall₂_nil_left_iff]
      exact ⟨fun h => by cases h; rfl, fun h => by rw [h]; rfl⟩
  | cons e rest ih =>
      rw [List.forall₂_cons_left_iff]
      unfold pageSpecs
      constructor
      · intro h
        cases hresolve : e.resolve k with
        | error fault =>
            rw [hresolve] at h
            cases h
        | ok s =>
            cases hspecs : pageSpecs k rest with
            | error fault =>
                rw [hresolve, hspecs] at h
                cases h
            | ok others =>
                rw [hresolve, hspecs] at h
                cases h
                exact ⟨_, _, ⟨s, rfl, rfl⟩, ih.mp hspecs, rfl⟩
      · rintro ⟨spec, others, ⟨s, hresolve, rfl⟩, hothers, rfl⟩
        rw [hresolve, ih.mpr hothers]
        rfl

theorem entries_ne_nil_of_check {b : Blueprint} (h : b.check = .ok ()) : b.entries ≠ [] := by
  unfold check at h
  split at h
  next => cases h
  next hentries => exact fun hnil => hentries (List.isEmpty_iff.mpr hnil)

theorem compose_eq_ok_iff {b : Blueprint} {k : Catalogue} {limits : ExecutionLimits}
    {theme : Theme} {title : String} {d : Document} :
    b.compose k limits theme title = .ok d ↔
      b.check = .ok () ∧ ∃ specs, pageSpecs k b.sorted.entries = .ok specs ∧
        d = {
          title := title
          canvas := Canvas.slide
          theme := theme
          pages := specs.map (·.compose limits theme)
          manifestHash :=
            SlideDeck.manifestHash (manifest theme (specs.map (·.compose limits theme))) } := by
  unfold compose
  cases hcheck : b.check with
  | error fault => simp
  | ok =>
      cases hspecs : pageSpecs k b.sorted.entries with
      | error fault => simp [bind, Except.bind]
      | ok specs =>
          simp only [bind, Except.bind, pure, Except.pure, Except.ok.injEq, true_and,
            exists_eq_left']
          exact eq_comm

/-- A document has the page of each slide, in the order of their positions. -/
theorem forall₂_pages_of_compose {b : Blueprint} {k : Catalogue} {limits : ExecutionLimits}
    {theme : Theme} {title : String} {d : Document}
    (h : b.compose k limits theme title = .ok d) :
    List.Forall₂ (fun e p => ∃ s, e.resolve k = .ok s ∧ p = (e.pageSpec s).compose limits theme)
      b.sorted.entries d.pages := by
  obtain ⟨_, specs, hspecs, rfl⟩ := compose_eq_ok_iff.mp h
  rw [List.forall₂_map_right_iff]
  refine (pageSpecs_eq_ok_iff.mp hspecs).imp ?_
  rintro e _ ⟨s, hresolve, rfl⟩
  exact ⟨s, hresolve, rfl⟩

/-- Each slide has its page. -/
theorem exists_page_of_compose {b : Blueprint} {k : Catalogue} {limits : ExecutionLimits}
    {theme : Theme} {title : String} {d : Document}
    (h : b.compose k limits theme title = .ok d) {e : BlueprintEntry} (he : e ∈ b.entries) :
    ∃ s, e.resolve k = .ok s ∧ (e.pageSpec s).compose limits theme ∈ d.pages := by
  obtain ⟨_, hp, s, hresolve, rfl⟩ :=
    exists_rel_of_mem (forall₂_pages_of_compose h) (List.mem_mergeSort.mpr he)
  exact ⟨s, hresolve, hp⟩

/-- Each page is the page of a slide. -/
theorem exists_slide_of_compose {b : Blueprint} {k : Catalogue} {limits : ExecutionLimits}
    {theme : Theme} {title : String} {d : Document}
    (h : b.compose k limits theme title = .ok d) {p : Page} (hp : p ∈ d.pages) :
    ∃ e ∈ b.entries, ∃ s, e.resolve k = .ok s ∧ p = (e.pageSpec s).compose limits theme := by
  obtain ⟨e, he, hpage⟩ := exists_rel_of_mem (forall₂_pages_of_compose h).flip hp
  exact ⟨e, List.mem_mergeSort.mp he, hpage⟩

/-- A document has a page, and each of its pages shows the logo of the theme where this has
a place. -/
theorem pages_of_compose {b : Blueprint} {k : Catalogue} {limits : ExecutionLimits}
    {theme : Theme} {title : String} {d : Document}
    (h : b.compose k limits theme title = .ok d) :
    d.theme = theme ∧ d.pages ≠ [] ∧ ∀ p ∈ d.pages, p.logo = theme.logoFrame? := by
  obtain ⟨hcheck, specs, hspecs, rfl⟩ := compose_eq_ok_iff.mp h
  have hlength : b.entries.length = specs.length :=
    (List.length_mergeSort _).symm.trans (pageSpecs_eq_ok_iff.mp hspecs).length_eq
  refine ⟨rfl, ?_, ?_⟩
  · intro hnil
    rw [List.map_eq_nil_iff] at hnil
    rw [hnil, List.length_nil, List.length_eq_zero_iff] at hlength
    exact entries_ne_nil_of_check hcheck hlength
  · intro p hp
    obtain ⟨spec, _, rfl⟩ := List.mem_map.mp hp
    rfl

end Blueprint

end SlideDeck
