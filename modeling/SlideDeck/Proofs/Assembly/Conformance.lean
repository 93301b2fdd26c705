import Mathlib.Data.List.Induction
import Mathlib.Data.List.InsertIdx
import SlideDeck.Library.Core
import SlideDeck.Proofs.Assembly.Candidates
import SlideDeck.Proofs.Assembly.TextSlides
import SlideDeck.Proofs.Blueprint.Numbering

/-!
# Slides that conform

Every slide of an assembly shows a payload that its component accepts without
reservation. For candidates and proposals this is what conforming checks, and the component
for text accepts all that a slide of text holds.
-/

namespace SlideDeck

/-- A payload that conforms passes the strict validation, as it was or repaired. -/
theorem Component.accepts_of_conform {c : Component} {proposed data : Json}
    (h : (c.conform proposed).data? = some data) : c.dataSchema.accepts data = true :=
  (conform_data?_iff.mp h).accepts

namespace Anchors

/-- A slide shows a public component with a payload that it accepts. -/
structure Shows (a : Anchors) (s : Slide) : Prop where
  component_mem : s.component ∈ a.usable
  accepts : s.component.dataSchema.accepts s.data = true

theorem Sound.shows_text {a : Anchors} (h : a.Sound) (title content : String)
    (items : List String) : a.Shows ⟨a.narrative, a.textPayload title content items⟩ :=
  ⟨h.narrative_mem, h.accepts_textPayload title content items⟩

end Anchors

/-- A candidate is a component of the pool with a payload that it accepts. -/
theorem Candidate.of_mem_ranked {pool : List Component} {m : Material} {tag : String}
    {candidate : Candidate} (h : candidate ∈ ranked pool m tag) :
    candidate.component ∈ pool ∧
      candidate.component.dataSchema.accepts candidate.data = true := by
  obtain ⟨hmem, hadopts⟩ := adopts_of_mem_ranked h
  exact ⟨hmem, hadopts.accepts⟩

namespace Anchors

theorem pool_subset (a : Anchors) (category : Category) : a.pool category ⊆ a.usable :=
  fun _ hc => (List.mem_filter.mp hc).1

theorem shows_of_mem_ranked {a : Anchors} {pool : List Component} (hpool : pool ⊆ a.usable)
    {m : Material} {tag : String} {candidate : Candidate}
    (h : candidate ∈ Candidate.ranked pool m tag) : a.Shows candidate.slide := by
  obtain ⟨hmem, haccepts⟩ := Candidate.of_mem_ranked h
  exact ⟨hpool hmem, haccepts⟩

/-! ## Assembly by rules -/

theorem Sound.shows_cover {a : Anchors} (h : a.Sound) (content : Content) (style : Style) :
    a.Shows (a.cover content style).1 := by
  unfold cover
  dsimp only
  split
  next best hbest =>
    have hcovers : ∀ p : Component → Bool,
        (a.usable.filter Component.isCover).filter p ⊆ a.usable := fun p _ hc =>
      (List.mem_filter.mp (List.mem_filter.mp hc).1).1
    -- covers with figures come first, and there are none of them in some styles
    rcases Option.or_eq_some_iff.mp hbest with hstats | ⟨_, hplain⟩
    · have hmem := List.mem_of_mem_head? hstats
      split at hmem
      next => cases hmem
      next => exact shows_of_mem_ranked (hcovers _) hmem
    · exact shows_of_mem_ranked (hcovers _) (List.mem_of_mem_head? hplain)
  next => exact h.shows_text content.title "" []

theorem shows_closing {a : Anchors} {s : Slide} (h : a.closing? = some s) : a.Shows s := by
  obtain ⟨candidate, hhead, rfl⟩ := Option.map_eq_some_iff.mp h
  exact shows_of_mem_ranked (a.pool_subset _) (List.mem_of_mem_head? hhead)

theorem Sound.shows_choose {a : Anchors} (h : a.Sound) (slides : List Slide) (s : Section)
    {candidates : List Candidate} (hshows : ∀ c ∈ candidates, a.Shows c.slide) :
    a.Shows (a.choose slides s candidates).1 := by
  cases candidates with
  | nil => exact h.shows_text s.title s.content s.items
  | cons best others =>
      have hbest := hshows best List.mem_cons_self
      unfold choose
      dsimp only
      split
      next =>
        cases others with
        | nil =>
            dsimp only
            split
            next => exact h.shows_text s.title s.content s.items
            next => exact hbest
        | cons next others => exact hshows next (List.mem_cons_of_mem _ List.mem_cons_self)
      next => exact hbest

/-- Slides of sections are put in front of slides that are there already. -/
theorem Sound.shows_sectionSlides {a : Anchors} (h : a.Sound) (table : SelectionTable)
    (sections : List Section) {slides : List Slide} (hslides : ∀ s ∈ slides, a.Shows s) :
    ∀ s ∈ (a.sectionSlides table slides sections).1, a.Shows s := by
  induction sections generalizing slides with
  | nil => exact hslides
  | cons s rest ih =>
      apply ih
      intro slide hslide
      rcases List.mem_cons.mp hslide with rfl | hslide
      · exact h.shows_choose slides s
          fun c hc => shows_of_mem_ranked (a.pool_subset _) hc
      · exact hslides slide hslide

/-- An entry shows a public component, as the component is now, with a payload that it
accepts. -/
def ShowsEntry (a : Anchors) (e : BlueprintEntry) : Prop :=
  ∃ c ∈ a.usable, c.id = e.componentId ∧ e.snapshot = some (Snapshot.of c) ∧
    c.dataSchema.accepts e.data = true

theorem Shows.entry {a : Anchors} {s : Slide} (h : a.Shows s) (position : Nat) :
    a.ShowsEntry (.of position s.component s.data) :=
  ⟨s.component, h.component_mem, rfl, rfl, h.accepts⟩

theorem blueprintOf_append_singleton (slides : List Slide) (slide : Slide) :
    blueprintOf (slides ++ [slide]) =
      (blueprintOf slides).push slide.component slide.data := by
  unfold blueprintOf
  rw [List.foldl_append]
  rfl

theorem entries_blueprintOf (slides : List Slide) :
    ∀ e ∈ (blueprintOf slides).entries, ∃ s ∈ slides, ∃ position,
      e = .of position s.component s.data := by
  induction slides using List.reverseRecOn with
  | nil => exact fun e he => absurd he List.not_mem_nil
  | append_singleton slides slide ih =>
      intro e he
      rw [blueprintOf_append_singleton] at he
      rcases List.mem_append.mp he with he | he
      · obtain ⟨s, hs, position, rfl⟩ := ih e he
        exact ⟨s, List.mem_append_left _ hs, position, rfl⟩
      · exact ⟨slide, List.mem_concat_self, _, List.mem_singleton.mp he⟩

theorem Sound.showsEntry_ruleBased {a : Anchors} (h : a.Sound) (table : SelectionTable)
    (content : Content) (p : Parameters) :
    ∀ e ∈ (a.ruleBased table content p).1.entries, a.ShowsEntry e := by
  intro e he
  obtain ⟨s, hs, position, rfl⟩ := entries_blueprintOf _ e he
  apply Shows.entry
  rcases List.mem_append.mp hs with hs | hs
  · refine h.shows_sectionSlides table _ ?_ s (List.mem_reverse.mp hs)
    intro slide hslide
    rw [List.mem_singleton.mp hslide]
    exact h.shows_cover content p.style
  · exact shows_closing (Option.mem_toList.mp hs)

/-! ## Reconciling of proposals -/

theorem Sound.showsEntry_settle {a : Anchors} (h : a.Sound) (content : Content)
    (position : Nat) (proposed : ProposedSlide) :
    ∀ e ∈ (a.settle content position proposed).entries, a.ShowsEntry e := by
  have hreplacement : a.ShowsEntry (a.replacement content position proposed) :=
    (h.shows_text _ _ _).entry position
  intro e he
  unfold settle at he
  dsimp only at he
  split at he
  next =>
    rw [List.mem_singleton.mp he]
    exact hreplacement
  next c hfind =>
    have hshows : ∀ data, (c.conform proposed.data).data? = some data →
        a.ShowsEntry (.of position c data) := fun data hdata =>
      Shows.entry (s := ⟨c, data⟩)
        ⟨List.mem_of_find?_eq_some hfind, Component.accepts_of_conform hdata⟩ position
    split at he
    next data hconform =>
      rw [List.mem_singleton.mp he]
      exact hshows data (congrArg Conformed.data? hconform)
    next data dropped hconform =>
      rw [List.mem_singleton.mp he]
      exact hshows data (congrArg Conformed.data? hconform)
    next =>
      rw [List.mem_singleton.mp he]
      exact hreplacement

theorem Sound.showsEntry_settleAll {a : Anchors} (h : a.Sound) (content : Content)
    (position : Nat) (proposals : List ProposedSlide) :
    ∀ e ∈ (a.settleAll content position proposals).entries, a.ShowsEntry e := by
  induction proposals generalizing position with
  | nil => exact fun e he => absurd he List.not_mem_nil
  | cons proposed rest ih =>
      intro e he
      rcases List.mem_append.mp he with he | he
      · exact h.showsEntry_settle content position proposed e he
      · exact ih (position + 1) e he

theorem Sound.showsEntry_restore {a : Anchors} (h : a.Sound) (sections : List Section)
    {entries : List BlueprintEntry} (hentries : ∀ e ∈ entries, a.ShowsEntry e) :
    ∀ e ∈ (a.restore entries sections).1, a.ShowsEntry e := by
  induction sections generalizing entries with
  | nil => exact hentries
  | cons s rest ih =>
      unfold restore
      split
      next => exact ih hentries
      next =>
        apply ih
        intro e he
        rcases List.eq_or_mem_of_mem_insertIdx he with rfl | he
        · exact (h.shows_text s.title s.content s.items).entry _
        · exact hentries e he

theorem ShowsEntry.of_mem_renumber {a : Anchors} {start : Nat} {entries : List BlueprintEntry}
    (h : ∀ e ∈ entries, a.ShowsEntry e) :
    ∀ e ∈ Blueprint.renumber start entries, a.ShowsEntry e :=
  (Blueprint.sameSlides_renumber start entries).forall_mem (fun _ _ he => he) h

theorem Sound.showsEntry_reconcile {a : Anchors} (h : a.Sound) {content : Content}
    {p : Parameters} {proposal : Proposal} {b : Blueprint} {warnings : List AssemblyWarning}
    (hreconcile : a.reconcile content p proposal = some (b, warnings)) :
    ∀ e ∈ b.entries, a.ShowsEntry e := by
  obtain ⟨slides, hslides, hb⟩ := Option.map_eq_some_iff.mp hreconcile
  cases hb
  unfold reconciledSlides at hslides
  dsimp only at hslides
  split at hslides
  next => cases hslides
  next =>
    cases hslides
    exact ShowsEntry.of_mem_renumber
      (h.showsEntry_restore _ (h.showsEntry_settleAll content 0 _))

end Anchors

/-! ## Assemblies -/

/-- Every slide of an assembly holds the snapshot of a public component of its id, and a
payload that passes the strict validation against the schema in the snapshot. -/
theorem assemble_entries_conform {table : SelectionTable} {content : Content}
    {components : List Component} {p : Parameters} {proposal : Option Proposal}
    {assembly : Assembly}
    (h : assemble table content components p proposal = .ok assembly) :
    ∀ e ∈ assembly.blueprint.entries, ∃ c ∈ components, c.isPublic = true ∧
      c.id = e.componentId ∧ ∃ snapshot, e.snapshot = some snapshot ∧
        snapshot = Snapshot.of c ∧
        (snapshot.dataSchema.validate .strict e.data).valid = true := by
  obtain ⟨a, hfind, hassembles⟩ := assemble_eq_ok_iff.mp h
  obtain ⟨husable, hsound⟩ := Anchors.find_eq_ok hfind
  have hshows : ∀ e ∈ assembly.blueprint.entries, a.ShowsEntry e := by
    cases hassembles with
    | mapped hreconcile => exact hsound.showsEntry_reconcile hreconcile
    | fallenBack _ => exact hsound.showsEntry_ruleBased table content p
    | ruleBased => exact hsound.showsEntry_ruleBased table content p
  intro e he
  obtain ⟨c, hc, hid, hsnapshot, haccepts⟩ := hshows e he
  rw [husable] at hc
  obtain ⟨hmem, hpublic⟩ := List.mem_filter.mp hc
  exact ⟨c, hmem, hpublic, hid, _, hsnapshot, rfl, haccepts⟩

/-- A plan of two sections. -/
def costPlan : Content :=
  ⟨"Plan", [{ title := "Costs", content := "Costs fell.", priority := 5 },
    { title := "Risks", items := ["One"], priority := 4 }]⟩

/-- One component for each thing that an assembly needs. -/
def plainComponents : List Component :=
  [Library.minimalCover, Library.fullTextNarrative, Library.thankYou]

/-- A single slide at a position that is none, with a member that is not of its shape. -/
def strayProposal : Proposal :=
  ⟨[⟨7, "core.full-text-narrative",
    .object [("bullets", .bool true), ("content", .string "Costs fell."),
      ("title", .string "Costs")]⟩]⟩

/-- The stray slide is repaired, the section that it leaves out is put back as text, and
both conform. -/
theorem assemble_entries_conform_strayProposal :
    ∃ assembly, assemble {} costPlan plainComponents {} (some strayProposal) = .ok assembly ∧
      assembly.strategy = .mapped ∧
      ∀ e ∈ assembly.blueprint.entries, ∃ c ∈ plainComponents, c.isPublic = true ∧
        c.id = e.componentId ∧ ∃ snapshot, e.snapshot = some snapshot ∧
          snapshot = Snapshot.of c ∧
          (snapshot.dataSchema.validate .strict e.data).valid = true := by
  have hmapped : (assemble {} costPlan plainComponents {} (some strayProposal)).toOption.map
      (·.strategy) = some .mapped := by decide +kernel
  cases hrun : assemble {} costPlan plainComponents {} (some strayProposal) with
  | error e =>
      rw [hrun] at hmapped
      cases hmapped
  | ok assembly =>
      rw [hrun] at hmapped
      exact ⟨assembly, rfl, Option.some.inj hmapped, assemble_entries_conform hrun⟩

end SlideDeck
