import SlideDeck.Proofs.Assembly.RuleDeck

/-!
# Slides of one component in a row

A third slide in a row of one component is one of the component for text, and it is there
because no other component can show the section. Each slide is chosen with those before it in
view, the cover among them; the closing slide repeats nothing, since neither text nor, by the
usual table, a section is shown by a closing component.
-/

namespace SlideDeck

namespace Anchors

variable {a : Anchors} {components : List Component} {table : SelectionTable}

/-- Nothing but the component for text can show a section. -/
def OnlyText (a : Anchors) (components : List Component) (table : SelectionTable)
    (s : Section) : Prop :=
  ∀ c ∈ components, c.Serves (table.category s.type) → c.id ≠ a.narrative.id →
    ¬ c.CanShow (Material.ofSection s)

/-- What can show a section is a candidate for it. -/
theorem exists_candidate (husable : a.usable = components.filter (·.isPublic))
    {s : Section} {c : Component} (hmem : c ∈ components)
    (hserves : c.Serves (table.category s.type)) (hshow : c.CanShow (Material.ofSection s)) :
    ∃ candidate ∈ a.candidates table s, candidate.component = c :=
  Candidate.exists_mem_ranked ((mem_pool_iff husable).mpr ⟨hmem, hserves⟩) hshow _

/-- What is worn out is what the last slide is of. -/
theorem id_eq_of_isWornOut {last : Slide} {before : List Slide} {id : String}
    (h : isWornOut (last :: before) id = true) : last.component.id = id := by
  obtain ⟨_, _, _, hslides, hid, _⟩ := isWornOut_iff.mp h
  cases hslides
  exact hid

/-- A slide like the last two is chosen only where there is nothing but text. -/
theorem Chooses.onlyText (husable : a.usable = components.filter (·.isPublic))
    (hregular : a.Regular) {last earlier : Slide} {before : List Slide} {s : Section}
    {slide : Slide} (h : a.Chooses (last :: earlier :: before) s (a.candidates table s) slide)
    (hlast : last.component.id = slide.component.id)
    (hearlier : earlier.component.id = slide.component.id) :
    slide.component.id = a.narrative.id ∧ a.OnlyText components table s := by
  have hworn : isWornOut (last :: earlier :: before) slide.component.id = true :=
    isWornOut_iff.mpr ⟨last, earlier, before, rfl, hlast, hearlier⟩
  have hnodup : ((a.candidates table s).map (·.component.id)).Nodup :=
    Candidate.nodup_ids_ranked (hregular.distinct.filter _) _ _
  have hcandidate : ∀ c ∈ components, c.Serves (table.category s.type) →
      c.CanShow (Material.ofSection s) → ∃ candidate ∈ a.candidates table s,
        candidate.component = c := fun c => exists_candidate husable
  generalize a.candidates table s = candidates at h hnodup hcandidate
  cases h with
  | unmatched =>
      refine ⟨rfl, fun c hc hserves _ hshow => ?_⟩
      obtain ⟨candidate, hmem, _⟩ := hcandidate c hc hserves hshow
      exact absurd hmem List.not_mem_nil
  | best hfresh =>
      -- the best candidate would be worn out
      exact absurd hworn (Bool.eq_false_iff.mp hfresh)
  | @second best second others hbest =>
      -- the second candidate would have the id of the best one
      have hid : best.component.id = second.component.id :=
        (id_eq_of_isWornOut hbest).symm.trans hlast
      simp [hid] at hnodup
  | text hbest hother => exact absurd (hlast.symm.trans (id_eq_of_isWornOut hbest)) hother
  | @again best _ hsame =>
      refine ⟨hsame.symm, fun c hc hserves hother hshow => ?_⟩
      obtain ⟨candidate, hmem, rfl⟩ := hcandidate c hc hserves hshow
      rw [List.mem_singleton.mp hmem] at hother
      exact hother hsame.symm

theorem suffix_sectionSlides (table : SelectionTable) (slides : List Slide)
    (sections : List Section) : slides <:+ (a.sectionSlides table slides sections).1 := by
  induction sections generalizing slides with
  | nil => exact List.suffix_refl slides
  | cons s rest ih => exact (List.suffix_cons _ slides).trans (ih _)

/-- Each slide behind those that are there already was chosen for its section, with the
slides before it in view. -/
theorem exists_chooses (table : SelectionTable) {slides before back : List Slide}
    {sections : List Section} {slide : Slide}
    (h : (a.sectionSlides table slides sections).1 = back ++ slide :: before)
    (hbefore : slides.length ≤ before.length) :
    ∃ s, sections[before.length - slides.length]? = some s ∧
      a.Chooses before s (a.candidates table s) slide := by
  induction sections generalizing slides with
  | nil =>
      have hlength := congrArg List.length h
      simp only [sectionSlides, List.length_append, List.length_cons] at hlength
      omega
  | cons s rest ih =>
      by_cases hmore : slides.length + 1 ≤ before.length
      · obtain ⟨other, hother, hchooses⟩ := ih h hmore
        refine ⟨other, ?_, hchooses⟩
        have hindex : before.length - slides.length =
            before.length - (slides.length + 1) + 1 := by omega
        rw [hindex, List.getElem?_cons_succ]
        exact hother
      · -- nothing else has been put behind the slides yet
        obtain ⟨more, hslides⟩ :=
          suffix_sectionSlides table ((a.choose slides s (a.candidates table s)).1 :: slides) rest
        have hlength : slides.length = before.length := by omega
        obtain ⟨_, hcons⟩ := List.append_inj' (hslides.trans h) (by simp [hlength])
        obtain ⟨rfl, rfl⟩ := List.cons.inj hcons
        rw [Nat.sub_self]
        exact ⟨s, rfl, a.chooses_choose _ s _⟩

/-! ## Slides -/

theorem Fits.mem {s : Section} {slide : Slide} (h : a.Fits components table s slide)
    (hnarrative : a.narrative ∈ components) : slide.component ∈ components := by
  cases h with
  | routed hmem _ _ => exact hmem
  | text => exact hnarrative

/-- No section is shown by a closing component, unless its type is routed to them. -/
theorem Fits.category_ne_closing {s : Section} {slide : Slide}
    (h : a.Fits components table s slide) (htable : table.category s.type ≠ .closing)
    (hnarrative : a.narrative.category = .narrative) : slide.component.category ≠ .closing := by
  cases h with
  | routed _ hserves _ => exact hserves.2.1 ▸ htable
  | text =>
      intro hclosing
      cases hnarrative.symm.trans hclosing

end Anchors

/-- Three elements in a row, in a list with perhaps one more element behind it, are all in the
list, or the third is the one behind it. -/
theorem eq_append_or_of_append_toList {α : Type} {l front back : List α} {last : Option α}
    {x y z : α} (h : l ++ last.toList = front ++ x :: y :: z :: back) :
    (∃ rest, l = front ++ x :: y :: z :: rest) ∨ last = some z ∧ l = front ++ [x, y] := by
  cases last with
  | none => exact .inl ⟨back, (List.append_nil l).symm.trans h⟩
  | some w =>
      rcases List.eq_nil_or_concat back with rfl | ⟨rest, v, rfl⟩
      · have hends : l ++ [w] = (front ++ [x, y]) ++ [z] := by simpa using h
        obtain ⟨hl, hlast⟩ := List.append_inj' hends rfl
        cases hlast
        exact .inr ⟨rfl, hl⟩
      · have hends : l ++ [w] = (front ++ x :: y :: z :: rest) ++ [v] := by simpa using h
        exact .inl ⟨rest, (List.append_inj' hends rfl).1⟩

section Deck

variable {table : SelectionTable} {content : Content} {components : List Component}
  {a : Anchors}

/-- A closing slide does not repeat the slide of a section. -/
theorem Anchors.Fits.id_ne_closing (hdistinct : DistinctIds components)
    (hfind : Anchors.find content components = .ok a) {s : Section} {slide closing : Slide}
    (h : a.Fits components table s slide) (htable : table.category s.type ≠ .closing)
    (hclosing : a.closing? = some closing) : slide.component.id ≠ closing.component.id := by
  obtain ⟨husable, hsound⟩ := Anchors.find_eq_ok hfind
  have hnarrative : a.narrative ∈ components :=
    (List.mem_filter.mp (husable ▸ hsound.narrative_mem)).1
  obtain ⟨hmem, hserves, _⟩ := Anchors.adopts_of_closing? husable hclosing
  intro hid
  apply h.category_ne_closing htable (Anchors.category_narrative hfind)
  rw [hdistinct.eq_of_id_eq (h.mem hnarrative) hmem hid]
  exact hserves.2.1

/-- The third slide in a row of one component is one of a section that nothing but text can
show. -/
theorem Anchors.onlyText_of_third (hdistinct : DistinctIds components)
    (hfind : Anchors.find content components = .ok a)
    (htable : ∀ type, table.category type ≠ .closing) {cover x y z : Slide}
    {sections : List Section} {front back : List Slide}
    (h : (a.sectionSlides table [cover] sections).1.reverse ++ a.closing?.toList =
      front ++ x :: y :: z :: back)
    (hx : x.component.id = z.component.id) (hy : y.component.id = z.component.id) :
    ∃ s, sections[front.length + 1]? = some s ∧ z.component.id = a.narrative.id ∧
      a.OnlyText components table s := by
  have husable := (Anchors.find_eq_ok hfind).1
  rcases eq_append_or_of_append_toList h with ⟨rest, hslides⟩ | ⟨hclosing, hslides⟩
  · have hbehind : (a.sectionSlides table [cover] sections).1 =
        rest.reverse ++ z :: y :: x :: front.reverse := by
      rw [← List.reverse_reverse (a.sectionSlides table [cover] sections).1, hslides]
      simp
    obtain ⟨s, hs, hchooses⟩ := Anchors.exists_chooses table hbehind (by simp)
    refine ⟨s, by simpa using hs, ?_⟩
    exact hchooses.onlyText husable (Anchors.regular_of_find hdistinct hfind) hy hx
  · -- the second slide is one of a section, which the closing slide does not repeat
    have hbehind : (a.sectionSlides table [cover] sections).1 =
        [] ++ y :: x :: front.reverse := by
      rw [← List.reverse_reverse (a.sectionSlides table [cover] sections).1, hslides]
      simp
    obtain ⟨s, _, hchooses⟩ := Anchors.exists_chooses table hbehind (by simp)
    have hfits := hchooses.fits husable fun _ hc => hc
    exact absurd hy (hfits.id_ne_closing hdistinct hfind (htable s.type) hclosing)

end Deck

/-! ## Assemblies -/

variable {content : Content} {components : List Component} {p : Parameters}
  {proposal : Option Proposal} {assembly : Assembly}

/-- Entries in a row show slides in a row. -/
theorem exists_slides_in_a_row {slides : List Slide} {front back : List BlueprintEntry}
    {x y z : BlueprintEntry}
    (h : List.Forall₂ Slide.ShownBy slides (front ++ x :: y :: z :: back)) :
    ∃ front' x' y' z' back', slides = front' ++ x' :: y' :: z' :: back' ∧
      front'.length = front.length ∧ x'.ShownBy x ∧ y'.ShownBy y ∧ z'.ShownBy z := by
  induction front generalizing slides with
  | nil =>
      obtain ⟨x', _, hx, hfromy, rfl⟩ := List.forall₂_cons_right_iff.mp h
      obtain ⟨y', _, hy, hfromz, rfl⟩ := List.forall₂_cons_right_iff.mp hfromy
      obtain ⟨z', back', hz, _, rfl⟩ := List.forall₂_cons_right_iff.mp hfromz
      exact ⟨[], x', y', z', back', rfl, rfl, hx, hy, hz⟩
  | cons e rest ih =>
      obtain ⟨slide, _, _, hrest, rfl⟩ := List.forall₂_cons_right_iff.mp h
      obtain ⟨front', x', y', z', back', rfl, hlength, hshown⟩ := ih hrest
      exact ⟨slide :: front', x', y', z', back', rfl, congrArg (· + 1) hlength, hshown⟩

/-- The usual table has no sections shown by closing components. -/
theorem SelectionTable.category_ne_closing (type : SectionType) :
    ({} : SelectionTable).category type ≠ .closing := by
  cases type <;> decide

/-- With the usual table and components of distinct ids, three slides in a row of one component
are slides of the component for text, and no other component can show the section of the
third. -/
theorem third_in_a_row_onlyText (hdistinct : DistinctIds components)
    (h : assemble {} content components p proposal = .ok assembly)
    (hruled : assembly.strategy = .ruleBased) {front back : List BlueprintEntry}
    {x y z : BlueprintEntry}
    (hentries : assembly.blueprint.entries = front ++ x :: y :: z :: back)
    (hx : x.componentId = z.componentId) (hy : y.componentId = z.componentId) :
    ∃ a hasClosing s, Anchors.find content components = .ok a ∧
      z.componentId = a.narrative.id ∧ (hasClosing = true ↔ HasClosing components) ∧
      (trimSections content.sections p.slideCount hasClosing)[front.length + 1]? = some s ∧
      ∀ c ∈ components, c.Serves s.type.category → c.id ≠ a.narrative.id →
        ¬ c.CanShow (Material.ofSection s) := by
  obtain ⟨a, hfind, hblueprint, _⟩ := exists_ruleBased_of_assemble h hruled
  have hshown := Anchors.shownBy_blueprintOf
    ((a.sectionSlides {} [(a.cover content p.style).1]
      (trimSections content.sections p.slideCount a.closing?.isSome)).1.reverse ++
        a.closing?.toList)
  rw [← Anchors.ruleBased_fst, ← hblueprint, hentries] at hshown
  obtain ⟨front', x', y', z', back', hslides, hlength, hx', hy', hz'⟩ :=
    exists_slides_in_a_row hshown
  have hidx : x'.component.id = z'.component.id :=
    hx'.componentId_eq.symm.trans (hx.trans hz'.componentId_eq)
  have hidy : y'.component.id = z'.component.id :=
    hy'.componentId_eq.symm.trans (hy.trans hz'.componentId_eq)
  obtain ⟨s, hs, hnarrative, honly⟩ := Anchors.onlyText_of_third hdistinct hfind
    SelectionTable.category_ne_closing hslides hidx hidy
  rw [hlength] at hs
  exact ⟨a, _, s, hfind, hz'.componentId_eq.trans hnarrative,
    Anchors.isSome_closing?_iff (Anchors.find_eq_ok hfind).1, hs, honly⟩

/-- Four sections as text, one after another: nothing else can show the second of them. -/
theorem third_in_a_row_onlyText_riskPlan :
    DistinctIds plainComponents ∧ ∃ assembly,
      assemble {} riskPlan plainComponents {} none = .ok assembly ∧
      assembly.strategy = .ruleBased ∧ ∃ front x y z back,
        assembly.blueprint.entries = front ++ x :: y :: z :: back ∧
        x.componentId = z.componentId ∧ y.componentId = z.componentId ∧
        ∃ a hasClosing s, Anchors.find riskPlan plainComponents = .ok a ∧
          z.componentId = a.narrative.id ∧ (hasClosing = true ↔ HasClosing plainComponents) ∧
          (trimSections riskPlan.sections none hasClosing)[front.length + 1]? = some s ∧
          ∀ c ∈ plainComponents, c.Serves s.type.category → c.id ≠ a.narrative.id →
            ¬ c.CanShow (Material.ofSection s) := by
  have hdistinct : DistinctIds plainComponents := by decide
  have hids : (assemble {} riskPlan plainComponents {} none).toOption.map
      (·.blueprint.entries.map (·.componentId)) = some ["core.minimal-cover",
        "core.full-text-narrative", "core.full-text-narrative", "core.full-text-narrative",
        "core.full-text-narrative", "core.thank-you"] := by decide +kernel
  obtain ⟨assembly, hrun⟩ := exists_assemble_none riskPlan_equipped {} {}
  have hruled : assembly.strategy = .ruleBased := (ruleBased_of_assemble_none hrun).1
  rw [hrun] at hids
  obtain ⟨cover, _, hentries, _, hids⟩ := List.map_eq_cons_iff.mp (Option.some.inj hids)
  obtain ⟨x, _, rfl, hx, hids⟩ := List.map_eq_cons_iff.mp hids
  obtain ⟨y, _, rfl, hy, hids⟩ := List.map_eq_cons_iff.mp hids
  obtain ⟨z, back, rfl, hz, _⟩ := List.map_eq_cons_iff.mp hids
  have hrow : assembly.blueprint.entries = [cover] ++ x :: y :: z :: back := hentries
  have hx' : x.componentId = z.componentId := hx.trans hz.symm
  have hy' : y.componentId = z.componentId := hy.trans hz.symm
  exact ⟨hdistinct, assembly, hrun, hruled, [cover], x, y, z, back, hrow, hx', hy',
    third_in_a_row_onlyText hdistinct hrun hruled hrow hx' hy'⟩

end SlideDeck
