import SlideDeck.Assembly.Assemble
import SlideDeck.Library.Core
import SlideDeck.Proofs.Assembly.Preference

/-!
# Assembly from components in any order

An assembly depends on which public components there are. The order of their list and the
components that are not public decide nothing, neither in what the rules choose nor in what
becomes of proposals.
-/

namespace SlideDeck

namespace Anchors

/-- The same component for text, and the same components of distinct ids in any order. -/
structure SameStock (a b : Anchors) : Prop where
  narrative_eq : a.narrative = b.narrative
  distinct : DistinctIds a.usable
  perm : a.usable.Perm b.usable

variable {a b : Anchors}

/-! ## Text -/

theorem textPayload_congr (h : a.narrative = b.narrative) : a.textPayload = b.textPayload := by
  funext title content items
  unfold textPayload
  rw [h]

theorem textSlide_congr (h : a.narrative = b.narrative) : a.textSlide = b.textSlide := by
  funext s
  unfold textSlide
  rw [h, textPayload_congr h]

theorem choose_congr (h : a.narrative = b.narrative) : a.choose = b.choose := by
  funext slides s candidates
  unfold choose
  rw [h, textSlide_congr h]

theorem replacement_congr (h : a.narrative = b.narrative) : a.replacement = b.replacement := by
  funext content position proposed
  unfold replacement
  rw [h, textPayload_congr h]

namespace SameStock

/-! ## Assembly by rules -/

theorem ranked_eq (h : a.SameStock b) (keep : Component → Bool) (m : Material) (tag : String) :
    Candidate.ranked (a.usable.filter keep) m tag =
      Candidate.ranked (b.usable.filter keep) m tag :=
  Candidate.ranked_eq_of_perm (h.distinct.filter keep) (h.perm.filter keep) m tag

theorem cover_eq (h : a.SameStock b) : a.cover = b.cover := by
  funext content style
  unfold cover
  simp only [List.filter_filter]
  rw [h.ranked_eq, h.ranked_eq, h.narrative_eq, textPayload_congr h.narrative_eq]

theorem closing?_eq (h : a.SameStock b) : a.closing? = b.closing? := by
  unfold closing? pool
  rw [h.ranked_eq]

theorem candidates_eq (h : a.SameStock b) : a.candidates = b.candidates := by
  funext table s
  unfold candidates pool
  rw [h.ranked_eq]

theorem sectionSlides_eq (h : a.SameStock b) (table : SelectionTable) (slides : List Slide)
    (sections : List Section) :
    a.sectionSlides table slides sections = b.sectionSlides table slides sections := by
  induction sections generalizing slides with
  | nil => rfl
  | cons s rest ih =>
      unfold sectionSlides
      rw [choose_congr h.narrative_eq, h.candidates_eq]
      simp only [ih]

theorem ruleSlides_eq (h : a.SameStock b) : a.ruleSlides = b.ruleSlides := by
  funext table content style kept
  unfold ruleSlides
  simp only [h.closing?_eq, h.cover_eq, h.sectionSlides_eq]

theorem ruleBased_eq (h : a.SameStock b) : a.ruleBased = b.ruleBased := by
  funext table content p
  unfold ruleBased
  rw [h.closing?_eq, h.ruleSlides_eq]

/-! ## Reconciling of proposals -/

theorem isClosing_eq (h : a.SameStock b) : a.isClosing = b.isClosing := by
  funext id
  exact h.perm.any_eq

theorem settle_eq (h : a.SameStock b) : a.settle = b.settle := by
  funext content position proposed
  unfold settle
  dsimp only
  rw [h.distinct.find?_eq_of_perm h.perm, replacement_congr h.narrative_eq]

theorem settleAll_eq (h : a.SameStock b) (content : Content) (position : Nat)
    (proposals : List ProposedSlide) :
    a.settleAll content position proposals = b.settleAll content position proposals := by
  induction proposals generalizing position with
  | nil => rfl
  | cons proposed rest ih =>
      unfold settleAll
      rw [h.settle_eq, ih]

theorem restorePlace_eq (h : a.SameStock b) : a.restorePlace = b.restorePlace := by
  funext entries
  unfold restorePlace
  rw [h.isClosing_eq]

theorem restore_eq (h : a.SameStock b) (entries : List BlueprintEntry)
    (sections : List Section) : a.restore entries sections = b.restore entries sections := by
  induction sections generalizing entries with
  | nil => rfl
  | cons s rest ih =>
      unfold restore
      rw [h.restorePlace_eq, h.narrative_eq, textPayload_congr h.narrative_eq]
      simp only [ih]

theorem reconciledSlides_eq (h : a.SameStock b) : a.reconciledSlides = b.reconciledSlides := by
  funext content proposal
  unfold reconciledSlides
  simp only [h.settleAll_eq, h.restore_eq, h.isClosing_eq]

theorem reconcile_eq (h : a.SameStock b) : a.reconcile = b.reconcile := by
  funext content p proposal
  unfold reconcile
  rw [h.reconciledSlides_eq]

end SameStock

/-- Anchors that are found among the same public components are of the same stock, and
where none are found the same thing is missing. -/
theorem find_sameStock {components others : List Component}
    (hdistinct : DistinctIds (components.filter (·.isPublic)))
    (hpublic : (components.filter (·.isPublic)).Perm (others.filter (·.isPublic)))
    (content : Content) :
    (∃ e, find content components = .error e ∧ find content others = .error e) ∨
      ∃ a b, find content components = .ok a ∧ find content others = .ok b ∧
        a.SameStock b := by
  unfold find
  dsimp only
  -- the tests come out the same for both lists, so the cases of one are those of the other
  rw [← hpublic.isEmpty_eq, ← hpublic.any_eq, ← narratives_eq_of_perm hdistinct hpublic]
  split
  next => exact .inl ⟨_, rfl, rfl⟩
  next =>
    split
    next => exact .inl ⟨_, rfl, rfl⟩
    next =>
      split
      next => exact .inl ⟨_, rfl, rfl⟩
      next =>
        split
        next => exact .inl ⟨_, rfl, rfl⟩
        next => exact .inr ⟨_, _, rfl, rfl, rfl, hdistinct, hpublic⟩

end Anchors

/-- Lists with the same public components, in whatever order and among whatever components
that are not public, give the same assembly or the same error. -/
theorem assemble_eq_of_perm_public {components others : List Component}
    (hdistinct : DistinctIds components)
    (hpublic : (components.filter (·.isPublic)).Perm (others.filter (·.isPublic)))
    (table : SelectionTable) (content : Content) (p : Parameters)
    (proposal : Option Proposal) :
    assemble table content components p proposal =
      assemble table content others p proposal := by
  unfold assemble
  rcases Anchors.find_sameStock (hdistinct.filter _) hpublic content with
    ⟨e, hfirst, hsecond⟩ | ⟨a, b, hfirst, hsecond, hstock⟩
  · rw [hfirst, hsecond]
  · rw [hfirst, hsecond]
    simp only [bind, Except.bind, hstock.ruleBased_eq, hstock.reconcile_eq]

/-- A component for text that is preferred to the one of the library, but not public. -/
def draftNarrative : Component :=
  { Library.fullTextNarrative with
    id := "user.draft-narrative", isPublic := false, popularity := 1000 }

/-- A deck of the draft and, the other way round, the components without it. -/
theorem assemble_eq_of_perm_public_draft :
    let components := [Library.minimalCover, Library.fullTextNarrative, Library.thankYou]
    let content : Content := ⟨"Plan", [{ title := "Costs", content := "Costs fell." }]⟩
    DistinctIds components ∧
      (components.filter (·.isPublic)).Perm
        ((draftNarrative :: components.reverse).filter (·.isPublic)) ∧
      assemble {} content components {} none =
        assemble {} content (draftNarrative :: components.reverse) {} none := by
  intro components content
  have hdistinct : DistinctIds components := by decide
  have hpublic : (components.filter (·.isPublic)).Perm
      ((draftNarrative :: components.reverse).filter (·.isPublic)) :=
    (List.reverse_perm components).symm
  exact ⟨hdistinct, hpublic, assemble_eq_of_perm_public hdistinct hpublic {} content {} none⟩

end SlideDeck
