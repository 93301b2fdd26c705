import SlideDeck.Library.Processes
import SlideDeck.Proofs.Assembly.Repetition
import SlideDeck.Proofs.Related

/-!
# Retired components in decks of the rules

The slides of sections and the closing slide are chosen among components that are not retired.
The cover and the component for text are chosen among all public ones. So a retired component
is the cover of a deck or shows text, and where every section has a component of its own that
is not retired, text behind the cover only breaks a row of two slides of one component.
-/

namespace SlideDeck

variable {components : List Component}

/-- An entry names a component that is retired. -/
def BlueprintEntry.NamesRetired (components : List Component) (e : BlueprintEntry) : Prop :=
  ∃ c ∈ components, c.id = e.componentId ∧ c.deprecated = true

/-- Each of some sections has a component that is not retired and can show it. -/
def HaveAlternatives (components : List Component) (table : SelectionTable)
    (sections : List Section) : Prop :=
  ∀ s ∈ sections, ∃ c ∈ components, c.Serves (table.category s.type) ∧
    c.CanShow (Material.ofSection s)

namespace Anchors

variable {a : Anchors} {table : SelectionTable} {content : Content} {p : Parameters}

/-- A candidate for a section is not retired. -/
theorem deprecated_of_mem_candidates {s : Section} {candidate : Candidate}
    (h : candidate ∈ a.candidates table s) : candidate.component.deprecated = false := by
  obtain ⟨hpool, _⟩ := Candidate.adopts_of_mem_ranked h
  have hkept := (List.mem_filter.mp hpool).2
  rw [Bool.and_eq_true, Bool.not_eq_true'] at hkept
  exact hkept.2

/-- Where a section has a candidate, a retired component is chosen for it only as text, behind
two slides of the best candidate. -/
theorem Chooses.retired {before : List Slide} {s : Section} {slide : Slide}
    (h : a.Chooses before s (a.candidates table s) slide)
    (hcandidates : a.candidates table s ≠ []) (hretired : slide.component.deprecated = true) :
    slide.component.id = a.narrative.id ∧ ∃ last earlier rest,
      before = last :: earlier :: rest ∧ earlier.component.id = last.component.id ∧
      last.component.id ≠ slide.component.id := by
  have hkept : ∀ candidate ∈ a.candidates table s, candidate.component.deprecated ≠ true :=
    fun candidate hmem => ne_true_of_eq_false (deprecated_of_mem_candidates hmem)
  generalize a.candidates table s = candidates at h hcandidates hkept
  cases h with
  | unmatched => exact absurd rfl hcandidates
  | best _ => exact absurd hretired (hkept _ List.mem_cons_self)
  | second _ =>
      exact absurd hretired (hkept _ (List.mem_cons_of_mem _ List.mem_cons_self))
  | again _ _ => exact absurd hretired (hkept _ List.mem_cons_self)
  | text hworn hother =>
      obtain ⟨last, earlier, rest, hbefore, hlast, hearlier⟩ := isWornOut_iff.mp hworn
      exact ⟨rfl, last, earlier, rest, hbefore, hearlier.trans hlast.symm,
        fun hid => hother (hid.symm.trans hlast)⟩

/-! ## The slides of a deck -/

/-- The slides of a deck by the rules. -/
def ruledSlides (a : Anchors) (table : SelectionTable) (content : Content) (p : Parameters) :
    List Slide :=
  (a.sectionSlides table [(a.cover content p.style).1]
    (trimSections content.sections p.slideCount a.closing?.isSome)).1.reverse ++ a.closing?.toList

variable {front back : List Slide} {slide : Slide}

theorem Sound.shows_ruledSlides (h : a.Sound) :
    ∀ slide ∈ a.ruledSlides table content p, a.Shows slide := by
  intro slide hslide
  rcases List.mem_append.mp hslide with hslide | hslide
  · refine h.shows_sectionSlides table _ ?_ slide (List.mem_reverse.mp hslide)
    exact List.forall_mem_singleton.mpr (h.shows_cover content p.style)
  · exact shows_closing (Option.mem_toList.mp hslide)

theorem deprecated_of_closing? (husable : a.usable = components.filter (·.isPublic))
    (h : a.closing? = some slide) : slide.component.deprecated = false := by
  obtain ⟨_, hserves, _⟩ := adopts_of_closing? husable h
  exact hserves.2.2

/-- A retired component is the one of the cover, or the one for text. -/
theorem retired_slide (husable : a.usable = components.filter (·.isPublic))
    (h : a.ruledSlides table content p = front ++ slide :: back)
    (hretired : slide.component.deprecated = true) :
    (front = [] ∧ slide.component.isPublic = true ∧ slide.component.isCover = true ∧
        slide.component.CanShow (Material.ofCover content)) ∨
      slide.component = a.narrative := by
  obtain ⟨chosen, hslides, hfits⟩ :=
    exists_sectionSlides husable table [(a.cover content p.style).1]
      (trimSections content.sections p.slideCount a.closing?.isSome)
  have hdeck : (a.cover content p.style).1 :: (chosen ++ a.closing?.toList) =
      front ++ slide :: back := by
    rw [← h, ruledSlides, hslides]
    simp
  cases front with
  | nil =>
      obtain ⟨hcover, _⟩ := List.cons.inj hdeck
      have hopens := opens_cover husable content p.style
      rw [hcover] at hopens
      cases hopens with
      | cover _ hpublic hiscover hadopts => exact .inl ⟨rfl, hpublic, hiscover, _, hadopts⟩
      | text _ => exact .inr rfl
  | cons first rest =>
      right
      have hmem : slide ∈ chosen ++ a.closing?.toList := by
        rw [(List.cons.inj hdeck).2]
        exact List.mem_append_right _ List.mem_cons_self
      rcases List.mem_append.mp hmem with hchosen | hclosing
      · obtain ⟨s, _, hfit⟩ := Forall₂.exists_mem hfits hchosen
        cases hfit with
        | routed _ hserves _ => exact absurd hretired (ne_true_of_eq_false hserves.2.2)
        | text => rfl
      · have hkept := deprecated_of_closing? husable (Option.mem_toList.mp hclosing)
        exact absurd hretired (ne_true_of_eq_false hkept)

/-- Where every section has a component that is not retired, a retired component behind the
cover is the one for text, and breaks a row of two slides of another component. -/
theorem retired_breaks_row (husable : a.usable = components.filter (·.isPublic))
    (halternatives : HaveAlternatives components table
      (trimSections content.sections p.slideCount a.closing?.isSome))
    (h : a.ruledSlides table content p = front ++ slide :: back)
    (hfront : front ≠ []) (hretired : slide.component.deprecated = true) :
    slide.component.id = a.narrative.id ∧ ∃ more earlier last,
      front = more ++ [earlier, last] ∧ earlier.component.id = last.component.id ∧
      last.component.id ≠ slide.component.id := by
  have hopen : slide ∉ a.closing?.toList := by
    intro hclosing
    have hkept := deprecated_of_closing? husable (Option.mem_toList.mp hclosing)
    exact absurd hretired (ne_true_of_eq_false hkept)
  rcases List.append_eq_append_iff.mp h with ⟨more, _, hclosing⟩ | ⟨more, hslides, hclosing⟩
  · rw [hclosing] at hopen
    exact absurd (List.mem_append_right _ List.mem_cons_self) hopen
  · cases more with
    | nil =>
        rw [List.nil_append] at hclosing
        rw [← hclosing] at hopen
        exact absurd List.mem_cons_self hopen
    | cons other more =>
        obtain ⟨rfl, _⟩ := List.cons.inj hclosing
        have hbehind : (a.sectionSlides table [(a.cover content p.style).1]
            (trimSections content.sections p.slideCount a.closing?.isSome)).1 =
              more.reverse ++ slide :: front.reverse := by
          rw [← List.reverse_reverse (a.sectionSlides table _ _).1, hslides]
          simp
        have hlength : 1 ≤ front.reverse.length := by
          rw [List.length_reverse]
          exact List.length_pos_of_ne_nil hfront
        obtain ⟨s, hs, hchooses⟩ := exists_chooses table hbehind hlength
        obtain ⟨c, hc, hserves, hshow⟩ := halternatives s (List.mem_of_getElem? hs)
        obtain ⟨candidate, hcandidate, _⟩ := exists_candidate husable hc hserves hshow
        obtain ⟨hid, last, earlier, rest, hbefore, hsame, hother⟩ :=
          hchooses.retired (List.ne_nil_of_mem hcandidate) hretired
        refine ⟨hid, rest.reverse, earlier, last, ?_, hsame, hother⟩
        rw [← List.reverse_reverse front, hbefore]
        simp

/-! ## The entries of a deck -/

variable {entries front back : List BlueprintEntry} {e : BlueprintEntry}

/-- The slide that an entry shows, with those that the entries in front of it show. -/
theorem Sound.exists_shown (h : a.Sound) (husable : a.usable = components.filter (·.isPublic))
    (hshown : List.Forall₂ Slide.ShownBy (a.ruledSlides table content p) (front ++ e :: back)) :
    ∃ front' slide back', a.ruledSlides table content p = front' ++ slide :: back' ∧
      List.Forall₂ Slide.ShownBy front' front ∧ slide.ShownBy e ∧
      slide.component ∈ components := by
  obtain ⟨front', slide, back', hslides, hfront, hslide, _⟩ := Forall₂.exists_append_cons hshown
  have hmem : slide ∈ a.ruledSlides table content p := by
    rw [hslides]
    exact List.mem_append_right _ List.mem_cons_self
  have hcomponent := (h.shows_ruledSlides slide hmem).component_mem
  rw [husable] at hcomponent
  exact ⟨front', slide, back', hslides, hfront, hslide, (List.mem_filter.mp hcomponent).1⟩

theorem Sound.retired_entry (h : a.Sound) (husable : a.usable = components.filter (·.isPublic))
    (hdistinct : DistinctIds components)
    (hshown : List.Forall₂ Slide.ShownBy (a.ruledSlides table content p) (front ++ e :: back))
    {c : Component} (hc : c ∈ components) (hid : c.id = e.componentId)
    (hretired : c.deprecated = true) :
    (front = [] ∧ c.isPublic = true ∧ c.isCover = true ∧
      c.CanShow (Material.ofCover content)) ∨ c = a.narrative := by
  obtain ⟨front', slide, back', hdeck, hfront, hslide, hmem⟩ := h.exists_shown husable hshown
  obtain rfl := hdistinct.eq_of_id_eq hmem hc (hslide.componentId_eq.symm.trans hid.symm)
  refine (retired_slide husable hdeck hretired).imp_left ?_
  rintro ⟨rfl, hcover⟩
  exact ⟨List.forall₂_nil_left_iff.mp hfront, hcover⟩

theorem Sound.retired_entry_breaks_row (h : a.Sound)
    (husable : a.usable = components.filter (·.isPublic)) (hdistinct : DistinctIds components)
    (halternatives : HaveAlternatives components table
      (trimSections content.sections p.slideCount a.closing?.isSome))
    (hshown : List.Forall₂ Slide.ShownBy (a.ruledSlides table content p) (front ++ e :: back))
    (hfront : front ≠ []) (hretired : e.NamesRetired components) :
    e.componentId = a.narrative.id ∧ ∃ more earlier last,
      front = more ++ [earlier, last] ∧ earlier.componentId = last.componentId ∧
      last.componentId ≠ e.componentId := by
  obtain ⟨c, hc, hid, hdeprecated⟩ := hretired
  obtain ⟨front', slide, back', hdeck, hfronts, hslide, hmem⟩ := h.exists_shown husable hshown
  obtain rfl := hdistinct.eq_of_id_eq hmem hc (hslide.componentId_eq.symm.trans hid.symm)
  have hfront' : front' ≠ [] := by
    rintro rfl
    exact hfront (List.forall₂_nil_left_iff.mp hfronts)
  obtain ⟨htext, more', earlier', last', rfl, hsame, hother⟩ :=
    retired_breaks_row husable halternatives hdeck hfront' hdeprecated
  -- the two slides in front are shown by the two entries in front
  obtain ⟨more, earlier, _, rfl, _, hearlier, hlasts⟩ :=
    Forall₂.exists_append_cons hfronts.flip
  obtain ⟨last, _, hlast, hnil, rfl⟩ := List.forall₂_cons_right_iff.mp hlasts
  obtain rfl := List.forall₂_nil_right_iff.mp hnil
  have hearlierid : earlier.componentId = earlier'.component.id :=
    BlueprintEntry.Shows.componentId_eq hearlier
  have hlastid : last.componentId = last'.component.id :=
    BlueprintEntry.Shows.componentId_eq hlast
  refine ⟨hslide.componentId_eq.trans htext, more, earlier, last, rfl, ?_, ?_⟩
  · rw [hearlierid, hlastid, hsame]
  · rw [hlastid, hslide.componentId_eq]
    exact hother

/-- No entry names a retired component just when the cover does not, and the component for
text, if it is retired, is not named behind the cover. -/
theorem Sound.none_retired_iff (h : a.Sound)
    (husable : a.usable = components.filter (·.isPublic)) (hdistinct : DistinctIds components)
    (hshown : List.Forall₂ Slide.ShownBy (a.ruledSlides table content p) entries) :
    (∀ e ∈ entries, ¬ e.NamesRetired components) ↔
      (∀ e ∈ entries.head?, ¬ e.NamesRetired components) ∧
        (a.narrative.deprecated = true → ∀ e ∈ entries.tail, e.componentId ≠ a.narrative.id) := by
  constructor
  · intro hnone
    have hnarrative : a.narrative ∈ components :=
      (List.mem_filter.mp (husable ▸ h.narrative_mem)).1
    refine ⟨fun e he => hnone e (List.mem_of_mem_head? he), fun hdeprecated e he hid => ?_⟩
    exact hnone e (List.mem_of_mem_tail he) ⟨a.narrative, hnarrative, hid.symm, hdeprecated⟩
  · rintro ⟨hhead, htail⟩ e he ⟨c, hc, hid, hdeprecated⟩
    obtain ⟨front, back, rfl⟩ := List.append_of_mem he
    cases front with
    | nil => exact hhead e rfl ⟨c, hc, hid, hdeprecated⟩
    | cons first rest =>
        rcases h.retired_entry husable hdistinct hshown hc hid hdeprecated with ⟨hnil, _⟩ | rfl
        · cases hnil
        · exact htail hdeprecated e (List.mem_append_right _ List.mem_cons_self) hid.symm

end Anchors

/-! ## Assemblies -/

variable {table : SelectionTable} {content : Content} {p : Parameters}
  {proposal : Option Proposal} {assembly : Assembly}

/-- In a deck of the rules over components of distinct ids, a retired component is the one of
the cover, which it can show, or the one for text. Where each section that is kept has a
component of its own that is not retired, a retired component behind the cover breaks a row of
two slides of another one. So no slide is of a retired component just when the cover is not and
no text behind it is. -/
theorem retired_cover_or_text (hdistinct : DistinctIds components)
    (h : assemble table content components p proposal = .ok assembly)
    (hruled : assembly.strategy = .ruleBased) :
    ∃ a hasClosing, Anchors.find content components = .ok a ∧
      (hasClosing = true ↔ HasClosing components) ∧
      (∀ front e back, assembly.blueprint.entries = front ++ e :: back →
        ∀ c ∈ components, c.id = e.componentId → c.deprecated = true →
          (front = [] ∧ c.isPublic = true ∧ c.isCover = true ∧
            c.CanShow (Material.ofCover content)) ∨ c = a.narrative) ∧
      (HaveAlternatives components table
          (trimSections content.sections p.slideCount hasClosing) →
        ∀ front e back, assembly.blueprint.entries = front ++ e :: back → front ≠ [] →
          e.NamesRetired components →
          e.componentId = a.narrative.id ∧ ∃ more earlier last,
            front = more ++ [earlier, last] ∧ earlier.componentId = last.componentId ∧
            last.componentId ≠ e.componentId) ∧
      ((∀ e ∈ assembly.blueprint.entries, ¬ e.NamesRetired components) ↔
        (∀ e ∈ assembly.blueprint.entries.head?, ¬ e.NamesRetired components) ∧
          (a.narrative.deprecated = true →
            ∀ e ∈ assembly.blueprint.entries.tail, e.componentId ≠ a.narrative.id)) := by
  obtain ⟨a, hfind, hblueprint, _⟩ := exists_ruleBased_of_assemble h hruled
  obtain ⟨husable, hsound⟩ := Anchors.find_eq_ok hfind
  have hshown := Anchors.shownBy_blueprintOf (a.ruledSlides table content p)
  have hdeck : Anchors.blueprintOf (a.ruledSlides table content p) = assembly.blueprint :=
    hblueprint.symm
  rw [hdeck] at hshown
  refine ⟨a, _, hfind, Anchors.isSome_closing?_iff husable, ?_, ?_,
    hsound.none_retired_iff husable hdistinct hshown⟩
  · intro front e back hentries c hc
    rw [hentries] at hshown
    exact hsound.retired_entry husable hdistinct hshown hc
  · intro halternatives front e back hentries
    rw [hentries] at hshown
    exact hsound.retired_entry_breaks_row husable hdistinct halternatives hshown

/-- The cover with figures, retired in favour of the usual one. -/
def retiredCover : Component :=
  { Library.statsCover with deprecated := true, supersededBy := some "core.minimal-cover" }

/-- The usual component for text, retired. -/
def retiredText : Component := { Library.fullTextNarrative with deprecated := true }

/-- Three sections in a row that call for the same kind of slide, each with a figure. -/
def threeSteps : Content where
  title := "Plan"
  sections := ["One", "Two", "Three"].map fun title =>
    { title := title, type := .process, items := ["Plan", "Build"],
      dataPoints := [⟨"Weeks", "3", none, none⟩] }

/-- A single component for such sections and some component for text, with the retired cover
and the usual one. -/
def stepComponents (text : Component) : List Component :=
  [retiredCover, Library.minimalCover, Library.numberedSteps, text]

theorem haveAlternatives_threeSteps (text : Component) :
    HaveAlternatives (stepComponents text) {} threeSteps.sections := by
  have hshow : ∀ s ∈ threeSteps.sections, s.type = .process ∧
      (Library.numberedSteps.conform (Binding.payload Library.numberedSteps.dataSchema
        (Material.ofSection s))).data?.isSome = true := by decide +kernel
  intro s hs
  obtain ⟨htype, hsteps⟩ := hshow s hs
  refine ⟨Library.numberedSteps, by simp [stepComponents], ⟨rfl, ?_, rfl⟩,
    Component.canShow_iff.mpr hsteps⟩
  rw [htype]
  rfl

/-- The cover is retired, and the retired component for text breaks the row of steps. -/
theorem retired_cover_or_text_threeSteps :
    DistinctIds (stepComponents retiredText) ∧ ∃ assembly,
      assemble {} threeSteps (stepComponents retiredText) {} none = .ok assembly ∧
      assembly.strategy = .ruleBased ∧ ∃ cover first second third,
        assembly.blueprint.entries = [cover, first, second, third] ∧
        cover.NamesRetired (stepComponents retiredText) ∧
        retiredCover.CanShow (Material.ofCover threeSteps) ∧
        third.NamesRetired (stepComponents retiredText) ∧
        HaveAlternatives (stepComponents retiredText) {} threeSteps.sections ∧
        ∃ more earlier last, [cover, first, second] = more ++ [earlier, last] ∧
          earlier.componentId = last.componentId ∧ last.componentId ≠ third.componentId := by
  have hdistinct : DistinctIds (stepComponents retiredText) := by decide
  have hids : (assemble {} threeSteps (stepComponents retiredText) {} none).toOption.map
      (·.blueprint.entries.map (·.componentId)) = some ["core.stats-cover",
        "core.numbered-steps", "core.numbered-steps", "core.full-text-narrative"] := by
    decide +kernel
  obtain ⟨assembly, hrun, hids⟩ := exists_assembly_of_value hids
  have hruled : assembly.strategy = .ruleBased := (ruleBased_of_assemble_none hrun).1
  obtain ⟨a, _, hfind, _, hretired, hrow, _⟩ := retired_cover_or_text hdistinct hrun hruled
  obtain ⟨cover, _, hentries, hcover, hids⟩ := List.map_eq_cons_iff.mp hids
  obtain ⟨first, _, rfl, _, hids⟩ := List.map_eq_cons_iff.mp hids
  obtain ⟨second, _, rfl, _, hids⟩ := List.map_eq_cons_iff.mp hids
  obtain ⟨third, _, rfl, hthird, hids⟩ := List.map_eq_cons_iff.mp hids
  obtain rfl := List.map_eq_nil_iff.mp hids
  have hcoverMem : retiredCover ∈ stepComponents retiredText := List.mem_cons_self
  have hthirdNames : third.NamesRetired (stepComponents retiredText) :=
    ⟨retiredText, by simp [stepComponents], hthird.symm, rfl⟩
  have halternatives := haveAlternatives_threeSteps retiredText
  obtain ⟨_, hbreaks⟩ := hrow halternatives [cover, first, second] third [] hentries
    (List.cons_ne_nil _ _) hthirdNames
  -- the cover is not the component for text, for it is of another category
  have hshow : retiredCover.CanShow (Material.ofCover threeSteps) := by
    rcases hretired [] cover _ hentries retiredCover hcoverMem hcover.symm rfl
      with ⟨_, _, _, hshow⟩ | hnarrative
    · exact hshow
    · have hcategory := Anchors.category_narrative hfind
      rw [← hnarrative] at hcategory
      cases hcategory
  exact ⟨hdistinct, assembly, hrun, hruled, cover, first, second, third, hentries,
    ⟨retiredCover, hcoverMem, hcover.symm, rfl⟩, hshow, hthirdNames, halternatives, hbreaks⟩

/-- A cover is retired although another one that is not can take its place, and although there
is a component that is not retired for text and for each section. -/
theorem exists_retired_cover :
    DistinctIds (stepComponents Library.fullTextNarrative) ∧
    (∃ c ∈ stepComponents Library.fullTextNarrative, c.isPublic = true ∧ c.isCover = true ∧
      c.deprecated = false ∧ c.CanShow (Material.ofCover threeSteps)) ∧
    (∃ c ∈ stepComponents Library.fullTextNarrative, c.isPublic = true ∧
      c.category = .narrative ∧ c.deprecated = false ∧
      c.dataSchema.accepts (Binding.narrative "Title" "Content" []) = true) ∧
    (∀ hasClosing, HaveAlternatives (stepComponents Library.fullTextNarrative) {}
      (trimSections threeSteps.sections ({} : Parameters).slideCount hasClosing)) ∧
    ∃ assembly,
      assemble {} threeSteps (stepComponents Library.fullTextNarrative) {} none =
        .ok assembly ∧
      assembly.strategy = .ruleBased ∧ ∃ e ∈ assembly.blueprint.entries,
        e.NamesRetired (stepComponents Library.fullTextNarrative) := by
  have haccepts : Library.fullTextNarrative.dataSchema.accepts
      (Binding.narrative "Title" "Content" []) = true := by decide +kernel
  have hids : (assemble {} threeSteps (stepComponents Library.fullTextNarrative) {}
      none).toOption.map (·.blueprint.entries.map (·.componentId)) = some ["core.stats-cover",
        "core.numbered-steps", "core.numbered-steps", "core.full-text-narrative"] := by
    decide +kernel
  obtain ⟨assembly, hrun, hids⟩ := exists_assembly_of_value hids
  obtain ⟨cover, _, hentries, hcover, _⟩ := List.map_eq_cons_iff.mp hids
  refine ⟨by decide, ⟨Library.minimalCover, by simp [stepComponents], rfl, rfl, rfl, ?_⟩,
    ⟨Library.fullTextNarrative, by simp [stepComponents], rfl, rfl, rfl, haccepts⟩,
    fun _ => haveAlternatives_threeSteps Library.fullTextNarrative, assembly, hrun,
    (ruleBased_of_assemble_none hrun).1, cover, ?_, retiredCover, List.mem_cons_self,
    hcover.symm, rfl⟩
  · rw [Component.canShow_iff]
    decide +kernel
  · exact hentries ▸ List.mem_cons_self

end SlideDeck
