import SlideDeck.Proofs.Assembly.Preference
import SlideDeck.Proofs.Assembly.TextSlides
import SlideDeck.Proofs.Blueprint.Numbering

/-!
# Sections that are put back

Protected sections that no slide mentions are put back as slides of text, all of them at
one place: in front of the last closing slide, or behind all slides where there is none. A
slide of text is no closing slide, so the place stays the same while slides are put there.
-/

namespace SlideDeck

open Blueprint (SameSlides)

namespace Anchors

variable {a : Anchors}

/-- Sound anchors among components of distinct ids, where text is no closing slide. -/
structure Regular (a : Anchors) : Prop where
  sound : a.Sound
  distinct : DistinctIds a.usable
  category : a.narrative.category = .narrative

theorem regular_of_find {content : Content} {components : List Component}
    (hdistinct : DistinctIds components) (h : find content components = .ok a) : a.Regular := by
  obtain ⟨husable, hsound⟩ := find_eq_ok h
  exact ⟨hsound, husable ▸ hdistinct.filter _, category_narrative h⟩

theorem Regular.isClosing_narrative (h : a.Regular) : a.isClosing a.narrative.id = false := by
  unfold isClosing
  rw [List.any_eq_false]
  intro c hc hclosing
  rw [Bool.and_eq_true, beq_iff_eq, beq_iff_eq] at hclosing
  obtain ⟨hid, hclosing⟩ := hclosing
  rw [h.distinct.eq_of_id_eq hc h.sound.narrative_mem hid, h.category] at hclosing
  cases hclosing

/-! ## The place -/

/-- Slides are split where sections are put back: in front of the last closing slide, or
behind all of them if none is a closing slide. -/
inductive ClosesAt (a : Anchors) (front : List BlueprintEntry) : List BlueprintEntry → Prop
  | behind (hfront : ∀ e ∈ front, a.isClosing e.componentId = false) : ClosesAt a front []
  | before {closing : BlueprintEntry} {rest : List BlueprintEntry}
      (hclosing : a.isClosing closing.componentId = true)
      (hrest : ∀ e ∈ rest, a.isClosing e.componentId = false) :
      ClosesAt a front (closing :: rest)

theorem exists_closesAt (a : Anchors) (entries : List BlueprintEntry) :
    ∃ front back, entries = front ++ back ∧ a.ClosesAt front back := by
  induction entries with
  | nil => exact ⟨[], [], rfl, .behind fun e he => absurd he List.not_mem_nil⟩
  | cons e rest ih =>
      obtain ⟨front, back, rfl, hcloses⟩ := ih
      cases hcloses with
      | before hclosing hrest => exact ⟨e :: front, _, rfl, .before hclosing hrest⟩
      | behind hfront =>
          rw [List.append_nil]
          cases he : a.isClosing e.componentId with
          | true => exact ⟨[], e :: front, rfl, .before he hfront⟩
          | false =>
              exact ⟨e :: front, [], (List.append_nil _).symm,
                .behind (List.forall_mem_cons.mpr ⟨he, hfront⟩)⟩

variable {front back : List BlueprintEntry}

/-- Which slides are closing slides does not depend on their positions. -/
theorem ClosesAt.of_sameSlides {front' back' : List BlueprintEntry} (h : a.ClosesAt front back)
    (hfront : SameSlides front front') (hback : SameSlides back back') :
    a.ClosesAt front' back' := by
  cases h with
  | behind hnone =>
      cases hback
      exact .behind (hfront.forall_mem (fun _ _ he => he) hnone)
  | before hclosing hrest =>
      cases hback with
      | cons hsame hsames =>
          obtain ⟨position, rfl⟩ := hsame
          exact .before hclosing (SameSlides.forall_mem hsames (fun _ _ he => he) hrest)

theorem ClosesAt.restorePlace_eq (h : a.ClosesAt front back) :
    a.restorePlace (front ++ back) = front.length := by
  unfold restorePlace
  cases h with
  | behind hfront =>
      have hnone : (front.reverse.findIdx? fun e => a.isClosing e.componentId) = none := by
        rw [List.findIdx?_eq_none_iff]
        simpa using hfront
      rw [List.append_nil, hnone]
  | @before closing rest hclosing hrest =>
      have hnone : (rest.reverse.findIdx? fun e => a.isClosing e.componentId) = none := by
        rw [List.findIdx?_eq_none_iff]
        simpa using hrest
      have hfound : ((front ++ closing :: rest).reverse.findIdx?
          fun e => a.isClosing e.componentId) = some rest.length := by
        rw [List.reverse_append, List.reverse_cons, List.append_assoc, List.findIdx?_append,
          hnone, List.singleton_append, List.findIdx?_cons, if_pos hclosing]
        simp
      rw [hfound]
      simp only [List.length_append, List.length_cons]
      omega

/-- A slide that is put at the place leaves the place behind it. -/
theorem ClosesAt.put (h : a.ClosesAt front back) {e : BlueprintEntry}
    (he : a.isClosing e.componentId = false) : a.ClosesAt (front ++ [e]) back := by
  cases h with
  | before hclosing hrest => exact .before hclosing hrest
  | behind hfront =>
      refine .behind (List.forall_mem_append.mpr ⟨hfront, ?_⟩)
      exact List.forall_mem_singleton.mpr he

theorem insertIdx_length_append {α : Type} (front back : List α) (a : α) :
    (front ++ back).insertIdx front.length a = front ++ [a] ++ back := by
  induction front with
  | nil => rfl
  | cons first rest ih =>
      simp only [List.cons_append, List.length_cons, List.insertIdx_succ_cons, ih]

/-! ## Putting back -/

/-- A slide shows a section as text. -/
def ShowsText (a : Anchors) (s : Section) (e : BlueprintEntry) : Prop :=
  e.Shows a.narrative (a.textPayload s.title s.content s.items)

theorem ShowsText.mentions {s : Section} {e : BlueprintEntry} (hsound : a.Sound)
    (h : a.ShowsText s e) : s.Mentioned e.data := by
  rw [h.data_eq]
  exact hsound.mentioned_textPayload s

theorem ShowsText.move {s : Section} {e : BlueprintEntry} (h : a.ShowsText s e)
    (position : Nat) : a.ShowsText s { e with position := position } :=
  BlueprintEntry.Shows.move h position

/-- The protected sections that slides leave out, and the slides of text that put them
back at the place for it. -/
structure PutsBack (a : Anchors) (sections : List Section) (front back : List BlueprintEntry)
    (missing : List Section) (restored : List BlueprintEntry) : Prop where
  missing_sublist : missing.Sublist (sections.filter (·.isProtected))
  unmentioned : ∀ s ∈ missing, ∀ e ∈ front ++ back, ¬ s.Mentioned e.data
  texts : List.Forall₂ a.ShowsText missing restored
  mentioned : ∀ s ∈ sections, s.isProtected = true →
    ∃ e ∈ front ++ restored ++ back, s.Mentioned e.data

namespace PutsBack

variable {s : Section} {sections missing : List Section} {restored : List BlueprintEntry}

theorem of_sameSlides {front' restored' back' : List BlueprintEntry}
    (h : a.PutsBack sections front back missing restored) (hfront : SameSlides front front')
    (hrestored : SameSlides restored restored') (hback : SameSlides back back') :
    a.PutsBack sections front' back' missing restored' where
  missing_sublist := h.missing_sublist
  unmentioned s hs := (hfront.append hback).forall_mem (fun _ _ he => he) (h.unmentioned s hs)
  texts := hrestored.forall₂ (fun _ _ position he => he.move position) h.texts
  mentioned s hs hprotected := ((hfront.append hrestored).append hback).exists_mem
    (fun _ _ he => he) (h.mentioned s hs hprotected)

theorem skip (h : a.PutsBack sections front back missing restored)
    (hskip : s.isProtected = true → ∃ e ∈ front ++ back, s.Mentioned e.data) :
    a.PutsBack (s :: sections) front back missing restored := by
  refine ⟨?_, h.unmentioned, h.texts, List.forall_mem_cons.mpr ⟨?_, h.mentioned⟩⟩
  · exact h.missing_sublist.trans ((List.sublist_cons_self s sections).filter _)
  · intro hprotected
    obtain ⟨e, he, hmentioned⟩ := hskip hprotected
    refine ⟨e, ?_, hmentioned⟩
    rcases List.mem_append.mp he with he | he
    · exact List.mem_append_left _ (List.mem_append_left _ he)
    · exact List.mem_append_right _ he

theorem put {e : BlueprintEntry} (h : a.PutsBack sections (front ++ [e]) back missing restored)
    (hsound : a.Sound) (hprotected : s.isProtected = true)
    (hunmentioned : ∀ e ∈ front ++ back, ¬ s.Mentioned e.data) (htext : a.ShowsText s e) :
    a.PutsBack (s :: sections) front back (s :: missing) (e :: restored) := by
  have hslides : front ++ (e :: restored) ++ back = front ++ [e] ++ restored ++ back := by simp
  refine ⟨?_, List.forall_mem_cons.mpr ⟨hunmentioned, ?_⟩, .cons htext h.texts,
    List.forall_mem_cons.mpr ⟨fun _ => ⟨e, by simp, htext.mentions hsound⟩, ?_⟩⟩
  · rw [List.filter_cons_of_pos hprotected]
    exact h.missing_sublist.cons_cons s
  · intro t ht e' he'
    apply h.unmentioned t ht
    rcases List.mem_append.mp he' with he' | he'
    · exact List.mem_append_left _ (List.mem_append_left _ he')
    · exact List.mem_append_right _ he'
  · rw [hslides]
    exact h.mentioned

end PutsBack

/-- A section that is mentioned, or not protected, leaves the slides as they are. -/
theorem restore_cons_of_mentioned {entries : List BlueprintEntry} {s : Section}
    (h : s.isProtected = true → ∃ e ∈ entries, s.Mentioned e.data) (rest : List Section) :
    a.restore entries (s :: rest) = a.restore entries rest := by
  rw [restore, if_pos]
  cases hprotected : s.isProtected with
  | false => rfl
  | true =>
      obtain ⟨e, he, hmentioned⟩ := h hprotected
      exact List.any_eq_true.mpr ⟨e, he, Section.mentionedIn_iff.mpr hmentioned⟩

/-- A protected section that is not mentioned is put back at the place for it. -/
theorem restore_cons_of_unmentioned (h : a.ClosesAt front back) {s : Section}
    (hprotected : s.isProtected = true)
    (hunmentioned : ∀ e ∈ front ++ back, ¬ s.Mentioned e.data) (rest : List Section) :
    ∃ e, a.ShowsText s e ∧
      a.restore (front ++ back) (s :: rest) =
        ((a.restore (front ++ [e] ++ back) rest).1,
          .restoredSection s.title :: (a.restore (front ++ [e] ++ back) rest).2) := by
  refine ⟨.of front.length a.narrative (a.textPayload s.title s.content s.items),
    BlueprintEntry.Shows.of .., ?_⟩
  have hnone : ((front ++ back).any fun e => s.mentionedIn e.data) = false := by
    rw [List.any_eq_false]
    intro e he hmentioned
    exact hunmentioned e he (Section.mentionedIn_iff.mp hmentioned)
  rw [restore, hprotected, hnone]
  dsimp only
  rw [h.restorePlace_eq, insertIdx_length_append]
  rfl

/-- Restoring puts back, in their order and at the place for it, the protected sections
that are not mentioned when their turn comes. -/
theorem exists_putsBack (hregular : a.Regular) (h : a.ClosesAt front back)
    (sections : List Section) :
    ∃ missing restored, a.PutsBack sections front back missing restored ∧
      a.restore (front ++ back) sections =
        (front ++ restored ++ back, missing.map fun s => .restoredSection s.title) := by
  -- slides that have been put back stand at the end of the front
  induction sections generalizing front with
  | nil =>
      refine ⟨[], [], ⟨.slnil, ?_, .nil, ?_⟩, ?_⟩
      · exact fun s hs => absurd hs List.not_mem_nil
      · exact fun s hs => absurd hs List.not_mem_nil
      · rw [List.append_nil]
        rfl
  | cons s rest ih =>
      by_cases hskip : s.isProtected = true → ∃ e ∈ front ++ back, s.Mentioned e.data
      · obtain ⟨missing, restored, hputs, hrestore⟩ := ih h
        rw [restore_cons_of_mentioned hskip]
        exact ⟨missing, restored, hputs.skip hskip, hrestore⟩
      · obtain ⟨hprotected, hnone⟩ := Classical.not_imp.mp hskip
        have hunmentioned : ∀ e ∈ front ++ back, ¬ s.Mentioned e.data :=
          fun e he hmentioned => hnone ⟨e, he, hmentioned⟩
        obtain ⟨e, htext, hstep⟩ := restore_cons_of_unmentioned h hprotected hunmentioned rest
        have hplace : a.ClosesAt (front ++ [e]) back :=
          h.put (htext.componentId_eq ▸ hregular.isClosing_narrative)
        obtain ⟨missing, restored, hputs, hrestore⟩ := ih hplace
        refine ⟨s :: missing, e :: restored,
          hputs.put hregular.sound hprotected hunmentioned htext, ?_⟩
        rw [hstep, hrestore]
        simp

end Anchors

end SlideDeck
