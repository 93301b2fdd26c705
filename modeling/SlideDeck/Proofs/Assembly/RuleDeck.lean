import SlideDeck.Proofs.Assembly.Fallback
import SlideDeck.Proofs.Assembly.Trimming

/-!
# The deck that the rules give

A deck of the rules is a cover, one slide for each section that is kept and, if a component
can show it, a closing slide. What no component can show becomes text, and what is missing
from the frame of the deck leaves a warning.
-/

namespace SlideDeck

/-- An entry shows the component of a slide with its payload. -/
def Slide.ShownBy (slide : Slide) (e : BlueprintEntry) : Prop :=
  e.Shows slide.component slide.data

/-- A closing slide, or a warning that there is none. -/
inductive Closes (components : List Component) (warnings : List AssemblyWarning) :
    Bool → List Slide → Prop
  | closing {slide : Slide} (hmem : slide.component ∈ components)
      (hserves : slide.component.Serves .closing)
      (hadopts : slide.component.Adopts
        (Binding.payload slide.component.dataSchema Material.closing) slide.data) :
      Closes components warnings true [slide]
  | missing (hwarning : .noClosing ∈ warnings) : Closes components warnings false []

theorem Closes.length_eq {components : List Component} {warnings : List AssemblyWarning}
    {hasClosing : Bool} {slides : List Slide} (h : Closes components warnings hasClosing slides) :
    slides.length = hasClosing.toNat := by
  cases h <;> rfl

namespace Anchors

/-- The first slide is a cover, or the title as text with a warning. -/
inductive Opens (a : Anchors) (components : List Component) (content : Content)
    (warnings : List AssemblyWarning) : Slide → Prop
  | cover {slide : Slide} (hmem : slide.component ∈ components)
      (hpublic : slide.component.isPublic = true) (hcover : slide.component.isCover = true)
      (hadopts : slide.component.Adopts
        (Binding.payload slide.component.dataSchema (Material.ofCover content)) slide.data) :
      Opens a components content warnings slide
  | text (hwarning : .coverFallback ∈ warnings) :
      Opens a components content warnings ⟨a.narrative, a.textPayload content.title "" []⟩

/-- The slide of a section is one of a component of the category that its type is routed to,
or text. -/
inductive Fits (a : Anchors) (components : List Component) (table : SelectionTable)
    (s : Section) : Slide → Prop
  | routed {slide : Slide} (hmem : slide.component ∈ components)
      (hserves : slide.component.Serves (table.category s.type))
      (hadopts : slide.component.Adopts
        (Binding.payload slide.component.dataSchema (Material.ofSection s)) slide.data) :
      Fits a components table s slide
  | text : Fits a components table s (a.textSlide s)

variable {a : Anchors} {components : List Component} {table : SelectionTable}
  {content : Content} {p : Parameters}

/-! ## Blueprints of slides -/

theorem isDense_blueprintOf (slides : List Slide) : (blueprintOf slides).isDense = true := by
  induction slides using List.reverseRecOn with
  | nil => rfl
  | append_singleton slides slide ih =>
      rw [blueprintOf_append_singleton]
      exact Blueprint.isDense_push ih _ _

theorem shownBy_blueprintOf (slides : List Slide) :
    List.Forall₂ Slide.ShownBy slides (blueprintOf slides).entries := by
  induction slides using List.reverseRecOn with
  | nil => exact .nil
  | append_singleton slides slide ih =>
      rw [blueprintOf_append_singleton]
      exact List.rel_append ih (.cons (BlueprintEntry.Shows.of ..) .nil)

/-! ## The frame -/

theorem opens_cover (husable : a.usable = components.filter (·.isPublic)) (content : Content)
    (style : Style) :
    a.Opens components content (a.cover content style).2 (a.cover content style).1 := by
  have hcovers : ∀ (keep : Component → Bool) (tag : String) (best : Candidate),
      best ∈ Candidate.ranked ((a.usable.filter Component.isCover).filter keep)
        (Material.ofCover content) tag →
      a.Opens components content [] best.slide := by
    intro keep tag best hbest
    obtain ⟨hpool, hadopts⟩ := Candidate.adopts_of_mem_ranked hbest
    obtain ⟨hmem, hcover⟩ := List.mem_filter.mp (List.mem_filter.mp hpool).1
    rw [husable] at hmem
    obtain ⟨hmem, hpublic⟩ := List.mem_filter.mp hmem
    exact .cover hmem hpublic hcover hadopts
  unfold cover
  dsimp only
  split
  next best hbest =>
    -- covers with figures come first, and there are none of them in some styles
    rcases Option.or_eq_some_iff.mp hbest with hstats | ⟨_, hplain⟩
    · have hmem := List.mem_of_mem_head? hstats
      split at hmem
      next => cases hmem
      next => exact hcovers _ _ best hmem
    · exact hcovers _ _ best (List.mem_of_mem_head? hplain)
  next => exact .text List.mem_cons_self

theorem Opens.mono {warnings more : List AssemblyWarning} {slide : Slide}
    (h : a.Opens components content warnings slide) (hsubset : warnings ⊆ more) :
    a.Opens components content more slide := by
  cases h with
  | cover hmem hpublic hcover hadopts => exact .cover hmem hpublic hcover hadopts
  | text hwarning => exact .text (hsubset hwarning)

theorem adopts_of_closing? (husable : a.usable = components.filter (·.isPublic)) {slide : Slide}
    (h : a.closing? = some slide) :
    slide.component ∈ components ∧ slide.component.Serves .closing ∧ slide.component.Adopts
      (Binding.payload slide.component.dataSchema Material.closing) slide.data := by
  obtain ⟨candidate, hhead, rfl⟩ := Option.map_eq_some_iff.mp h
  obtain ⟨hpool, hadopts⟩ := Candidate.adopts_of_mem_ranked (List.mem_of_mem_head? hhead)
  obtain ⟨hmem, hserves⟩ := (mem_pool_iff husable).mp hpool
  exact ⟨hmem, hserves, hadopts⟩

theorem closes_closing? (husable : a.usable = components.filter (·.isPublic))
    {warnings : List AssemblyWarning}
    (hwarnings : a.closing? = none → .noClosing ∈ warnings) :
    Closes components warnings a.closing?.isSome a.closing?.toList := by
  cases hclosing : a.closing? with
  | none => exact .missing (hwarnings hclosing)
  | some slide =>
      obtain ⟨hmem, hserves, hadopts⟩ := adopts_of_closing? husable hclosing
      exact .closing hmem hserves hadopts

/-! ## The slides of sections -/

theorem Chooses.fits (husable : a.usable = components.filter (·.isPublic))
    {slides : List Slide} {s : Section} {candidates : List Candidate} {slide : Slide}
    (h : a.Chooses slides s candidates slide)
    (hcandidates : ∀ c ∈ candidates, c ∈ a.candidates table s) :
    a.Fits components table s slide := by
  have hrouted : ∀ c ∈ candidates, a.Fits components table s c.slide := by
    intro c hc
    obtain ⟨hpool, hadopts⟩ := Candidate.adopts_of_mem_ranked (hcandidates c hc)
    obtain ⟨hmem, hserves⟩ := (mem_pool_iff husable).mp hpool
    exact .routed hmem hserves hadopts
  cases h with
  | unmatched => exact .text
  | best _ => exact hrouted _ List.mem_cons_self
  | second _ => exact hrouted _ (List.mem_cons_of_mem _ List.mem_cons_self)
  | text _ _ => exact .text
  | again _ _ => exact hrouted _ List.mem_cons_self

/-- The slides of sections are put in front of those that are there already, one for each
section. -/
theorem exists_sectionSlides (husable : a.usable = components.filter (·.isPublic))
    (table : SelectionTable) (slides : List Slide) (sections : List Section) :
    ∃ chosen, (a.sectionSlides table slides sections).1 = chosen.reverse ++ slides ∧
      List.Forall₂ (a.Fits components table) sections chosen := by
  induction sections generalizing slides with
  | nil => exact ⟨[], rfl, .nil⟩
  | cons s rest ih =>
      have hchooses := a.chooses_choose slides s (a.candidates table s)
      obtain ⟨chosen, hslides, hfits⟩ :=
        ih ((a.choose slides s (a.candidates table s)).1 :: slides)
      refine ⟨_ :: chosen, ?_, .cons (hchooses.fits husable fun _ hc => hc) hfits⟩
      rw [List.reverse_cons, List.append_assoc]
      exact hslides

/-! ## Decks -/

/-- The slides of the rules: the cover, those of the sections that are kept, and the closing
slide if there is one. -/
theorem ruleBased_fst (a : Anchors) (table : SelectionTable) (content : Content)
    (p : Parameters) :
    (a.ruleBased table content p).1 = blueprintOf
      ((a.sectionSlides table [(a.cover content p.style).1]
        (trimSections content.sections p.slideCount a.closing?.isSome)).1.reverse ++
          a.closing?.toList) := rfl

/-- A deck of the rules: dense, with a closing slide if a component can show it, and with a
slide for each section that is kept in between. -/
structure IsRuled (a : Anchors) (components : List Component) (table : SelectionTable)
    (content : Content) (p : Parameters) (hasClosing : Bool) (assembly : Assembly) : Prop where
  closing_iff : hasClosing = true ↔ HasClosing components
  dense : assembly.blueprint.isDense = true
  size : assembly.blueprint.size =
    1 + (trimSections content.sections p.slideCount hasClosing).length + hasClosing.toNat
  slides : ∃ cover chosen closing,
    List.Forall₂ Slide.ShownBy (cover :: (chosen ++ closing)) assembly.blueprint.entries ∧
    a.Opens components content assembly.warnings cover ∧
    List.Forall₂ (a.Fits components table)
      (trimSections content.sections p.slideCount hasClosing) chosen ∧
    Closes components assembly.warnings hasClosing closing

variable {assembly : Assembly}

/-- What the rules give is such a deck, whatever further warnings come with it. -/
theorem isRuled_ruleBased (husable : a.usable = components.filter (·.isPublic))
    (hblueprint : assembly.blueprint = (a.ruleBased table content p).1)
    (hwarnings : (a.ruleBased table content p).2 ⊆ assembly.warnings) :
    a.IsRuled components table content p a.closing?.isSome assembly := by
  obtain ⟨chosen, hslides, hfits⟩ := exists_sectionSlides husable table
    [(a.cover content p.style).1]
    (trimSections content.sections p.slideCount a.closing?.isSome)
  have hblueprint' : assembly.blueprint = blueprintOf
      ((a.cover content p.style).1 :: (chosen ++ a.closing?.toList)) := by
    rw [hblueprint, ruleBased_fst, hslides, List.reverse_append, List.reverse_reverse]
    rfl
  have hshown := shownBy_blueprintOf
    ((a.cover content p.style).1 :: (chosen ++ a.closing?.toList))
  rw [← hblueprint'] at hshown
  have hopens : a.Opens components content assembly.warnings (a.cover content p.style).1 := by
    apply (opens_cover husable content p.style).mono
    intro w hw
    apply hwarnings
    unfold ruleBased ruleSlides
    simp [hw]
  have hcloses : Closes components assembly.warnings a.closing?.isSome a.closing?.toList := by
    apply closes_closing? husable
    intro hnone
    apply hwarnings
    unfold ruleBased ruleSlides
    simp [hnone]
  refine ⟨isSome_closing?_iff husable, hblueprint' ▸ isDense_blueprintOf _, ?_,
    _, _, _, hshown, hopens, hfits, hcloses⟩
  rw [Blueprint.size, ← hshown.length_eq, hfits.length_eq, List.length_cons, List.length_append,
    hcloses.length_eq]
  omega

end Anchors

/-! ## Assemblies -/

variable {table : SelectionTable} {content : Content} {components : List Component}
  {p : Parameters} {proposal : Option Proposal} {assembly : Assembly}

/-- A deck that does not come from proposals is the one of the rules, with their warnings and
perhaps one in front. -/
theorem exists_ruleBased_of_assemble
    (h : assemble table content components p proposal = .ok assembly)
    (hruled : assembly.strategy = .ruleBased) :
    ∃ a, Anchors.find content components = .ok a ∧
      assembly.blueprint = (a.ruleBased table content p).1 ∧
      (a.ruleBased table content p).2 ⊆ assembly.warnings := by
  obtain ⟨a, hfind, hassembles⟩ := assemble_eq_ok_iff.mp h
  cases hassembles with
  | mapped _ => cases hruled
  | fallenBack _ => exact ⟨a, hfind, rfl, List.subset_cons_self _ _⟩
  | ruleBased => exact ⟨a, hfind, rfl, List.Subset.refl _⟩

theorem exists_isRuled (h : assemble table content components p proposal = .ok assembly)
    (hruled : assembly.strategy = .ruleBased) :
    ∃ a hasClosing, Anchors.find content components = .ok a ∧
      a.IsRuled components table content p hasClosing assembly := by
  obtain ⟨a, hfind, hblueprint, hwarnings⟩ := exists_ruleBased_of_assemble h hruled
  exact ⟨a, _, hfind,
    Anchors.isRuled_ruleBased (Anchors.find_eq_ok hfind).1 hblueprint hwarnings⟩

/-- A deck of the rules is dense. It has a cover, one slide for each section that is kept and
a closing slide if a component can show one: a cover or else text with a warning, then slides
of the components that the sections are routed to or of text, then the closing slide or else
a warning. The sections that are kept are in order, with all protected ones. -/
theorem assemble_slide_for_each_section
    (h : assemble table content components p proposal = .ok assembly)
    (hruled : assembly.strategy = .ruleBased) :
    ∃ a hasClosing, Anchors.find content components = .ok a ∧
      a.IsRuled components table content p hasClosing assembly ∧
      (trimSections content.sections p.slideCount hasClosing).Sublist content.sections ∧
      ((trimSections content.sections p.slideCount hasClosing).filter fun s => 4 ≤ s.priority) =
        content.sections.filter fun s => 4 ≤ s.priority := by
  obtain ⟨a, hasClosing, hfind, hdeck⟩ := exists_isRuled h hruled
  exact ⟨a, hasClosing, hfind, hdeck, trimSections_sublist _ _ _,
    filter_isProtected_trimSections _ _ _⟩

/-- A plan of four sections has to fit two slides, and keeps the three protected ones. -/
theorem assemble_slide_for_each_section_riskPlan :
    ∃ assembly,
      assemble {} riskPlan plainComponents { slideCount := some 2 } none = .ok assembly ∧
      assembly.strategy = .ruleBased ∧
      ∃ a hasClosing, Anchors.find riskPlan plainComponents = .ok a ∧
        a.IsRuled plainComponents {} riskPlan { slideCount := some 2 } hasClosing assembly ∧
        (trimSections riskPlan.sections (some 2) hasClosing).Sublist riskPlan.sections ∧
        ((trimSections riskPlan.sections (some 2) hasClosing).filter fun s => 4 ≤ s.priority) =
          riskPlan.sections.filter fun s => 4 ≤ s.priority := by
  obtain ⟨assembly, hrun⟩ := exists_assemble_none riskPlan_equipped {} { slideCount := some 2 }
  have hruled : assembly.strategy = .ruleBased := (ruleBased_of_assemble_none hrun).1
  exact ⟨assembly, hrun, hruled, assemble_slide_for_each_section hrun hruled⟩

/-- A plan of one section. -/
def costNote : Content :=
  ⟨"Plan", [{ title := "Costs", content := "Costs fell.", priority := 5 }]⟩

/-- A closing component that takes nothing but a number for its message. -/
def countingThankYou : Component :=
  { Library.thankYou with
    dataSchema := { type := some .object, properties := [("message", { type := some .number })] } }

/-- A closing slide that cannot show a message, and what else an assembly needs. -/
def countingComponents : List Component :=
  [Library.minimalCover, Library.fullTextNarrative, countingThankYou]

theorem costNote_equipped : Equipped costNote countingComponents where
  sections := List.cons_ne_nil _ _
  cover := ⟨Library.minimalCover, by simp [countingComponents], rfl, rfl⟩
  narrative :=
    ⟨Library.fullTextNarrative, by simp [countingComponents], rfl, rfl, by decide +kernel⟩

theorem hasClosing_countingComponents : HasClosing countingComponents := by
  have hconforms : (countingThankYou.conform
      (Binding.payload countingThankYou.dataSchema Material.closing)).data?.isSome = true := by
    decide +kernel
  exact ⟨countingThankYou, by simp [countingComponents], ⟨rfl, rfl, rfl⟩,
    Component.canShow_iff.mpr hconforms⟩

/-- A closing component need not accept the message of a closing slide as it is to be the
last slide: the message is dropped. -/
theorem exists_closing_without_message :
    ∃ assembly, assemble {} costNote countingComponents {} none = .ok assembly ∧
      assembly.strategy = .ruleBased ∧
      (∀ c ∈ countingComponents, c.Serves .closing →
        c.dataSchema.accepts (Binding.payload c.dataSchema Material.closing) = false) ∧
      (∀ hasClosing, trimSections costNote.sections ({} : Parameters).slideCount hasClosing =
        costNote.sections) ∧
      assembly.blueprint.size = 1 + costNote.sections.length + 1 := by
  obtain ⟨assembly, hrun⟩ := exists_assemble_none costNote_equipped {} {}
  have hruled : assembly.strategy = .ruleBased := (ruleBased_of_assemble_none hrun).1
  obtain ⟨a, hasClosing, _, hdeck⟩ := exists_isRuled hrun hruled
  have hsize := hdeck.size
  rw [hdeck.closing_iff.mpr hasClosing_countingComponents] at hsize
  have hrejected : ∀ c ∈ countingComponents, c.category = .closing →
      c.dataSchema.accepts (Binding.payload c.dataSchema Material.closing) = false := by
    decide +kernel
  exact ⟨assembly, hrun, hruled, fun c hc hserves => hrejected c hc hserves.2.1,
    fun _ => rfl, hsize⟩

end SlideDeck
