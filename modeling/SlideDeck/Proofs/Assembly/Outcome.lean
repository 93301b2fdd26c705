import SlideDeck.Assembly.Assemble

/-!
# How an assembly comes about

An assembly has anchors among the public components. With these it is the reconciled
proposals, or what the rules give: because there are no proposals, or because none of
them survives.
-/

namespace SlideDeck

/-- What it takes to assemble a deck: sections, and public components for the cover and for
text. -/
structure Equipped (content : Content) (components : List Component) : Prop where
  sections : content.sections ≠ []
  cover : ∃ c ∈ components, c.isPublic = true ∧ c.isCover = true
  narrative : ∃ c ∈ components, c.isPublic = true ∧ c.category = .narrative ∧
    c.dataSchema.accepts (Binding.narrative "Title" "Content" []) = true

namespace Anchors

theorem mem_narratives_iff {usable : List Component} {c : Component} :
    c ∈ narratives usable ↔ c ∈ usable ∧ c.category = .narrative ∧
      c.dataSchema.accepts (Binding.narrative "Title" "Content" []) = true := by
  unfold narratives
  rw [List.mem_mergeSort, List.mem_filter, Bool.and_eq_true, beq_iff_eq]

/-- What it takes to find anchors, and which ones they are. -/
theorem find_eq_ok_iff {content : Content} {components : List Component} {a : Anchors} :
    find content components = .ok a ↔
      a.usable = components.filter (·.isPublic) ∧ a.usable ≠ [] ∧ content.sections ≠ [] ∧
        a.usable.any Component.isCover = true ∧
        (narratives a.usable).head? = some a.narrative := by
  obtain ⟨usable, narrative⟩ := a
  unfold find
  dsimp only
  constructor
  · intro h
    split at h
    next => cases h
    next hpublic =>
      split at h
      next => cases h
      next hsections =>
        split at h
        next => cases h
        next hcover =>
          split at h
          next => cases h
          next hnarratives =>
            cases h
            simp only [List.isEmpty_iff] at hpublic hsections
            simp only [Bool.not_eq_true', Bool.not_eq_false] at hcover
            exact ⟨rfl, hpublic, hsections, hcover, by rw [hnarratives]; rfl⟩
  · rintro ⟨rfl, hpublic, hsections, hcover, hhead⟩
    obtain ⟨rest, hnarratives⟩ := List.head?_eq_some_iff.mp hhead
    rw [if_neg (by simpa using hpublic), if_neg (by simpa using hsections),
      if_neg (by simp [hcover]), hnarratives]

/-- The component for text is one of the public components, and accepts a title with a
text. -/
structure Sound (a : Anchors) : Prop where
  narrative_mem : a.narrative ∈ a.usable
  accepts_probe : a.narrative.dataSchema.accepts
    (Binding.narrative "Title" "Content" []) = true

/-- The anchors that an assembly finds are sound, and their components are the public
ones. -/
theorem find_eq_ok {content : Content} {components : List Component} {a : Anchors}
    (h : find content components = .ok a) :
    a.usable = components.filter (·.isPublic) ∧ a.Sound := by
  obtain ⟨husable, _, _, _, hhead⟩ := find_eq_ok_iff.mp h
  obtain ⟨hmem, _, haccepts⟩ := mem_narratives_iff.mp (List.mem_of_mem_head? hhead)
  exact ⟨husable, hmem, haccepts⟩

theorem category_narrative {content : Content} {components : List Component} {a : Anchors}
    (h : find content components = .ok a) : a.narrative.category = .narrative := by
  obtain ⟨_, _, _, _, hhead⟩ := find_eq_ok_iff.mp h
  exact (mem_narratives_iff.mp (List.mem_of_mem_head? hhead)).2.1

/-- Anchors are found just when there is what it takes. -/
theorem exists_find_iff {content : Content} {components : List Component} :
    (∃ a, find content components = .ok a) ↔ Equipped content components := by
  constructor
  · rintro ⟨a, hfind⟩
    obtain ⟨husable, _, hsections, hcover, hhead⟩ := find_eq_ok_iff.mp hfind
    obtain ⟨cover, hmem, hiscover⟩ := List.any_eq_true.mp hcover
    obtain ⟨hnarrative, hcategory, haccepts⟩ :=
      mem_narratives_iff.mp (List.mem_of_mem_head? hhead)
    rw [husable] at hmem hnarrative
    obtain ⟨hcmem, hcpublic⟩ := List.mem_filter.mp hmem
    obtain ⟨hnmem, hnpublic⟩ := List.mem_filter.mp hnarrative
    exact ⟨hsections, ⟨cover, hcmem, hcpublic, hiscover⟩,
      ⟨a.narrative, hnmem, hnpublic, hcategory, haccepts⟩⟩
  · intro h
    obtain ⟨cover, hcover, hpublic, hiscover⟩ := h.cover
    obtain ⟨c, hc, hcpublic, hcategory, haccepts⟩ := h.narrative
    have husable : cover ∈ components.filter (·.isPublic) :=
      List.mem_filter.mpr ⟨hcover, hpublic⟩
    have hmem : c ∈ narratives (components.filter (·.isPublic)) :=
      mem_narratives_iff.mpr ⟨List.mem_filter.mpr ⟨hc, hcpublic⟩, hcategory, haccepts⟩
    obtain ⟨narrative, rest, hnarratives⟩ := List.exists_cons_of_ne_nil (List.ne_nil_of_mem hmem)
    refine ⟨⟨components.filter (·.isPublic), narrative⟩, find_eq_ok_iff.mpr ⟨rfl, ?_⟩⟩
    refine ⟨List.ne_nil_of_mem husable, h.sections,
      List.any_eq_true.mpr ⟨cover, husable, hiscover⟩, ?_⟩
    rw [hnarratives]
    rfl

/-- The ways in which anchors lead to an assembly. -/
inductive Assembles (a : Anchors) (table : SelectionTable) (content : Content)
    (p : Parameters) : Option Proposal → Assembly → Prop
  | mapped {proposal : Proposal} {blueprint : Blueprint} {warnings : List AssemblyWarning}
      (hreconcile : a.reconcile content p proposal = some (blueprint, warnings)) :
      Assembles a table content p (some proposal) ⟨blueprint, .mapped, warnings⟩
  | fallenBack {proposal : Proposal} (hreconcile : a.reconcile content p proposal = none) :
      Assembles a table content p (some proposal)
        ⟨(a.ruleBased table content p).1, .ruleBased,
          .mapperFallback "no usable entries" :: (a.ruleBased table content p).2⟩
  | ruleBased :
      Assembles a table content p none
        ⟨(a.ruleBased table content p).1, .ruleBased, (a.ruleBased table content p).2⟩

end Anchors

/-- There is an assembly when anchors are found, and it is one that they lead to. -/
theorem assemble_eq_ok_iff {table : SelectionTable} {content : Content}
    {components : List Component} {p : Parameters} {proposal : Option Proposal}
    {assembly : Assembly} :
    assemble table content components p proposal = .ok assembly ↔
      ∃ a, Anchors.find content components = .ok a ∧
        a.Assembles table content p proposal assembly := by
  constructor
  · intro h
    unfold assemble at h
    cases hfind : Anchors.find content components with
    | error e =>
        rw [hfind] at h
        cases h
    | ok a =>
        refine ⟨a, rfl, ?_⟩
        simp only [hfind, bind, Except.bind] at h
        cases proposal with
        | none =>
            cases h
            exact .ruleBased
        | some proposal =>
            dsimp only at h
            cases hreconcile : a.reconcile content p proposal with
            | some mapped =>
                rw [hreconcile] at h
                cases h
                exact .mapped hreconcile
            | none =>
                rw [hreconcile] at h
                cases h
                exact .fallenBack hreconcile
  · rintro ⟨a, hfind, hassembles⟩
    simp only [assemble, hfind, bind, Except.bind]
    cases hassembles with
    | mapped hreconcile =>
        simp only [hreconcile]
        rfl
    | fallenBack hreconcile =>
        simp only [hreconcile]
        rfl
    | ruleBased => rfl

/-- What can be read off an outcome is read off an assembly. -/
theorem exists_assembly_of_value {table : SelectionTable} {content : Content}
    {components : List Component} {p : Parameters} {proposal : Option Proposal} {α : Type}
    {f : Assembly → α} {value : α}
    (h : (assemble table content components p proposal).toOption.map f = some value) :
    ∃ assembly, assemble table content components p proposal = .ok assembly ∧
      f assembly = value := by
  cases hrun : assemble table content components p proposal with
  | error e =>
      rw [hrun] at h
      cases h
  | ok assembly =>
      rw [hrun] at h
      exact ⟨assembly, rfl, Option.some.inj h⟩

end SlideDeck
