import SlideDeck.Proofs.Document.Outcome
import SlideDeck.Proofs.Render.Lockstep.Basic
import SlideDeck.Proofs.Schema.Matching

/-!
# Faults stay on their pages

The page at a position is made of the slide at this position and of nothing else in the
blueprint. It shows either what the program of the slide draws in full or the failure notice
alone.
-/

namespace SlideDeck

/-! ## One page -/

namespace PageSpec

variable {spec : PageSpec} {limits : ExecutionLimits} {theme : Theme}

/-- A page is drawn: the engine is as new as the component asks for, the payload is a record
with the required members, and the program runs to its end. -/
structure Draws (spec : PageSpec) (limits : ExecutionLimits) (theme : Theme)
    (ops : List DrawOp) : Prop where
  engine : ∃ least, Version.parse? spec.engineMinVersion = some least ∧
    Version.engine.precedes least = false
  payload : ∃ members, spec.data = .object members ∧
    ∀ name ∈ spec.schema.required, members.lookup name ≠ none
  program : spec.program.execute ⟨limits, theme, spec.data⟩ = .ok ops

theorem checkEngine_eq_ok_iff {required : String} :
    checkEngine required = .ok () ↔
      ∃ least, Version.parse? required = some least ∧ Version.engine.precedes least = false := by
  unfold checkEngine
  cases Version.parse? required with
  | none => simp
  | some least => cases hprecedes : Version.engine.precedes least <;> simp [hprecedes]

theorem checkPayload_eq_ok_iff {s : Schema} {data : Json} :
    checkPayload s data = .ok () ↔
      ∃ members, data = .object members ∧ ∀ name ∈ s.required, members.lookup name ≠ none := by
  rw [← Schema.valid_lenient_iff]
  unfold checkPayload
  cases hvalid : (s.validate .lenient data).valid <;> simp [hvalid]

theorem draw_eq_ok_iff {ops : List DrawOp} :
    spec.draw limits theme = .ok ops ↔ spec.Draws limits theme ops := by
  unfold draw
  constructor
  · intro h
    obtain ⟨⟨⟩, hengine, h⟩ := bind_eq_ok_iff.mp h
    obtain ⟨⟨⟩, hpayload, hprogram⟩ := bind_eq_ok_iff.mp h
    exact ⟨checkEngine_eq_ok_iff.mp hengine, checkPayload_eq_ok_iff.mp hpayload, hprogram⟩
  · intro h
    exact bind_eq_ok_iff.mpr ⟨(), checkEngine_eq_ok_iff.mpr h.engine,
      bind_eq_ok_iff.mpr ⟨(), checkPayload_eq_ok_iff.mpr h.payload, h.program⟩⟩

/-- What a page shows: its drawing, when there is one, and otherwise the failure notice and
why there is none. -/
inductive Shows (spec : PageSpec) (limits : ExecutionLimits) (theme : Theme) (p : Page) : Prop
  | drawing (hdraws : spec.Draws limits theme p.ops) (hstatus : p.status = .rendered)
  | failure {e : ExecutionError} (hfails : ∀ ops, ¬ spec.Draws limits theme ops)
      (hcause : spec.draw limits theme = .error e)
      (hops : p.ops = failureMarker theme.fonts.body)
      (hstatus : p.status = .placeholder e.message)

theorem shows_compose (spec : PageSpec) (limits : ExecutionLimits) (theme : Theme) :
    spec.Shows limits theme (spec.compose limits theme) := by
  unfold compose render
  cases hdraw : spec.draw limits theme with
  | ok ops => exact .drawing (draw_eq_ok_iff.mp hdraw) rfl
  | error e =>
      refine .failure (fun ops hdraws => ?_) hdraw rfl rfl
      rw [draw_eq_ok_iff.mpr hdraws] at hdraw
      cases hdraw

end PageSpec

/-! ## All pages -/

/-- The page at a position. -/
def Document.pageAt? (d : Document) (position : Nat) : Option Page :=
  d.pages.find? fun p => p.position == position

/-- The page of a slide, when there is something to render it from. -/
def BlueprintEntry.page? (e : BlueprintEntry) (k : Catalogue) (limits : ExecutionLimits)
    (theme : Theme) : Option Page :=
  (e.resolve k).toOption.map fun s => (e.pageSpec s).compose limits theme

namespace Blueprint

/-- The slide at a position. -/
def entryAt? (b : Blueprint) (position : Nat) : Option BlueprintEntry :=
  b.entries.find? fun e => e.position == position

variable {b other : Blueprint} {k : Catalogue} {limits : ExecutionLimits} {theme : Theme}
  {title : String} {d : Document}

theorem DistinctPositions.entryAt?_eq_some_iff (h : b.DistinctPositions) {position : Nat}
    {e : BlueprintEntry} : b.entryAt? position = some e ↔ e ∈ b.entries ∧ e.position = position :=
  find?_key_eq_some_iff h

theorem pageAt?_eq_some_iff (h : b.compose k limits theme title = .ok d) {position : Nat}
    {p : Page} : d.pageAt? position = some p ↔ p ∈ d.pages ∧ p.position = position := by
  refine find?_key_eq_some_iff (List.pairwise_map.mpr ?_)
  exact (pairwise_pages_of_compose h).imp Nat.ne_of_lt

/-- The page at a position is that of the slide there, and so nothing else of the blueprint
has a part in it. -/
theorem pageAt?_of_compose (h : b.compose k limits theme title = .ok d) (position : Nat) :
    d.pageAt? position = (b.entryAt? position).bind fun e => e.page? k limits theme := by
  have hdistinct := (composable_iff.mpr ⟨d, h⟩).distinct
  cases hentry : b.entryAt? position with
  | some e =>
      obtain ⟨hmem, rfl⟩ := hdistinct.entryAt?_eq_some_iff.mp hentry
      obtain ⟨s, hresolve, hp⟩ := exists_page_of_compose h hmem
      rw [Option.bind_some, BlueprintEntry.page?, hresolve]
      exact (pageAt?_eq_some_iff h).mpr ⟨hp, PageSpec.position_compose ..⟩
  | none =>
      refine List.find?_eq_none.mpr fun p hp hposition => ?_
      obtain ⟨e, hmem, s, _, rfl⟩ := exists_slide_of_compose h hp
      rw [PageSpec.position_compose] at hposition
      exact List.find?_eq_none.mp hentry e hmem hposition

/-- Each page is the one at its position, and shows what the slide at this position gives. -/
theorem shows_of_compose (h : b.compose k limits theme title = .ok d) {p : Page}
    (hp : p ∈ d.pages) :
    d.pageAt? p.position = some p ∧ ∃ e s, b.entryAt? p.position = some e ∧
      e.resolve k = .ok s ∧ (e.pageSpec s).Shows limits theme p := by
  have hdistinct := (composable_iff.mpr ⟨d, h⟩).distinct
  refine ⟨(pageAt?_eq_some_iff h).mpr ⟨hp, rfl⟩, ?_⟩
  obtain ⟨e, hmem, s, hresolve, rfl⟩ := exists_slide_of_compose h hp
  refine ⟨e, s, ?_, hresolve, PageSpec.shows_compose ..⟩
  rw [PageSpec.position_compose]
  exact hdistinct.entryAt?_eq_some_iff.mpr ⟨hmem, rfl⟩

/-- A slide that cannot be drawn has the failure notice for its page. -/
theorem pageAt?_of_not_draws (h : b.compose k limits theme title = .ok d) {position : Nat}
    {e : BlueprintEntry} (hentry : b.entryAt? position = some e) {s : Snapshot}
    (hresolve : e.resolve k = .ok s) (hfails : ∀ ops, ¬ (e.pageSpec s).Draws limits theme ops) :
    ∃ p, d.pageAt? position = some p ∧ p.isPlaceholder = true ∧
      p.ops = failureMarker theme.fonts.body := by
  rw [pageAt?_of_compose h, hentry, Option.bind_some, BlueprintEntry.page?, hresolve]
  refine ⟨_, rfl, ?_⟩
  cases (e.pageSpec s).shows_compose limits theme with
  | drawing hdraws _ => exact absurd hdraws (hfails _)
  | failure _ _ hops hstatus => exact ⟨by rw [Page.isPlaceholder, hstatus], hops⟩

/-- Whatever the other slides are, two blueprints give the same page for a slide that they
have at the same position. Each page shows the drawing of its slide, which there is only for
an engine that is new enough and a payload with the required members, or else the failure
notice and nothing of the drawing. -/
theorem pages_of_compose_agree (limits : ExecutionLimits) (theme : Theme)
    (title title' : String) (h : b.Composable k) (hother : other.Composable k) :
    ∃ d d', b.compose k limits theme title = .ok d ∧
      other.compose k limits theme title' = .ok d' ∧
      (∀ position, b.entryAt? position = other.entryAt? position →
        d.pageAt? position = d'.pageAt? position) ∧
      ∀ p ∈ d.pages, d.pageAt? p.position = some p ∧ ∃ e s, b.entryAt? p.position = some e ∧
        e.resolve k = .ok s ∧ (e.pageSpec s).Shows limits theme p := by
  obtain ⟨d, hd⟩ := composable_iff.mp h
  obtain ⟨d', hd'⟩ := composable_iff.mp hother
  refine ⟨d, d', hd, hd', fun position hentry => ?_, fun _ hp => shows_of_compose hd hp⟩
  rw [pageAt?_of_compose hd, pageAt?_of_compose hd', hentry]

/-- The divider of the scattered deck, between a cover without its title and a closing that
asks for an engine to come. -/
def faultyDeck : Blueprint :=
  ⟨[.of 0 Library.minimalCover (.object []),
    .of 2 Library.sectionDivider (.object [("sectionName", .string "Part")]),
    { position := 7, componentId := "core.thank-you", data := .object [],
      snapshot := some { Snapshot.of Library.thankYou with engineMinVersion := "99.0.0" } }]⟩

theorem faultyDeck_composable : faultyDeck.Composable ⟨[Library.thankYou]⟩ := by
  refine ⟨List.cons_ne_nil _ _, by decide, ?_⟩
  simp [faultyDeck, BlueprintEntry.Lost, BlueprintEntry.of]

/-- The divider has the same page among faulty slides, and their pages show the notice. -/
theorem pages_of_compose_agree_faultyDeck :
    ∃ d d', faultyDeck.compose ⟨[Library.thankYou]⟩ .standard .standard "Faulty" = .ok d ∧
      scatteredDeck.compose ⟨[Library.thankYou]⟩ .standard .standard "Deck" = .ok d' ∧
      (∃ p, d.pageAt? 2 = some p ∧ d'.pageAt? 2 = some p) ∧
      ∀ position ∈ [0, 7], ∃ p, d.pageAt? position = some p ∧ p.isPlaceholder = true ∧
        p.ops = failureMarker Theme.standard.fonts.body := by
  obtain ⟨d, d', hd, hd', hagree, hshows⟩ := pages_of_compose_agree .standard .standard
    "Faulty" "Deck" faultyDeck_composable scatteredDeck_composable
  refine ⟨d, d', hd, hd', ?_, ?_⟩
  · have hpage : d.pageAt? 2 ≠ none := by
      rw [pageAt?_of_compose hd]
      exact Option.some_ne_none _
    obtain ⟨p, hp⟩ := Option.ne_none_iff_exists'.mp hpage
    exact ⟨p, hp, (hagree 2 rfl).symm.trans hp⟩
  · simp only [List.forall_mem_cons, List.not_mem_nil, false_implies, implies_true, and_true]
    constructor
    · refine pageAt?_of_not_draws hd rfl rfl fun _ hdraws => ?_
      obtain ⟨_, ⟨⟩, hpresent⟩ := hdraws.payload
      exact hpresent "title" List.mem_cons_self rfl
    · refine pageAt?_of_not_draws hd rfl rfl fun _ hdraws => ?_
      obtain ⟨_, hleast, hprecedes⟩ := hdraws.engine
      have hversion : Version.parse? "99.0.0" = some ⟨99, 0, 0, [], []⟩ := by decide +kernel
      cases hversion.symm.trans hleast
      cases hprecedes

end Blueprint

end SlideDeck
