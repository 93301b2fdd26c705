import SlideDeck.Library.Core
import SlideDeck.Proofs.Assembly.Adoption
import SlideDeck.Proofs.Assembly.Mention
import SlideDeck.Proofs.Assembly.Outcome

/-!
# Slides of text

The component for text is chosen by one payload, a title with a content. What it accepts there
it accepts of all titles and contents, since to a schema all texts are the same. So bullets are
all that a slide of text can fail by: they are shown if the component allows them, and dropped
if not. There is always something to show, and it mentions the section that it is made of.
-/

namespace SlideDeck

namespace Binding

/-- The members of every slide of text: the content as it is, and the title without outer
blanks, or another one in place of a blank title. -/
def textMembers (title content : String) : List (String × Json) :=
  [("content", .string content),
    ("title", .string (if Text.isBlankText title then "Overview" else Text.trim title))]

theorem narrative_nil_eq (title content : String) :
    Binding.narrative title content [] = .object (textMembers title content) := rfl

theorem narrative_eq_cons (title content : String) {items : List String} (hitems : items ≠ []) :
    Binding.narrative title content items =
      .object (("bullets", .ofStrings items) :: textMembers title content) := by
  cases items with
  | nil => exact absurd rfl hitems
  | cons first rest => rfl

end Binding

namespace Anchors

variable {a : Anchors}

theorem Sound.accepts_textMembers (h : a.Sound) (title content : String) :
    a.narrative.dataSchema.accepts (.object (Binding.textMembers title content)) = true :=
  (Schema.accepts_texts_congr ..).trans h.accepts_probe

/-- What becomes of a title, a content and bullets when they conform to the component for
text. -/
inductive TakesText (a : Anchors) (title content : String) (items : List String) :
    Conformed → Prop
  | plain (hitems : items = []) :
      TakesText a title content items (.valid (.object (Binding.textMembers title content)))
  | bulleted (hitems : items ≠ [])
      (hallows : a.narrative.dataSchema.Allows "bullets" (.ofStrings items)) :
      TakesText a title content items (.valid
        (.object (("bullets", .ofStrings items) :: Binding.textMembers title content)))
  | stripped (hitems : items ≠ [])
      (hnot : ¬ a.narrative.dataSchema.Allows "bullets" (.ofStrings items)) :
      TakesText a title content items
        (.repaired (.object (Binding.textMembers title content)) ["bullets"])

theorem Sound.takesText (h : a.Sound) (title content : String) (items : List String) :
    a.TakesText title content items
      (a.narrative.conform (Binding.narrative title content items)) := by
  have haccepts := h.accepts_textMembers title content
  by_cases hitems : items = []
  · subst hitems
    rw [Binding.narrative_nil_eq, Component.conform_of_accepts haccepts]
    exact .plain rfl
  · rw [Binding.narrative_eq_cons title content hitems]
    by_cases hallows : a.narrative.dataSchema.Allows "bullets" (.ofStrings items)
    · rw [Component.conform_cons_of_allows haccepts rfl hallows]
      exact .bulleted hitems hallows
    · rw [Component.conform_cons_of_not_allows haccepts rfl hallows]
      exact .stripped hitems hallows

/-- The payload of a slide of text is what conforming finds; nothing has to stand in for it. -/
theorem Sound.conform_data?_narrative (h : a.Sound) (title content : String)
    (items : List String) :
    (a.narrative.conform (Binding.narrative title content items)).data? =
      some (a.textPayload title content items) := by
  have htakes := h.takesText title content items
  unfold textPayload
  generalize a.narrative.conform (Binding.narrative title content items) = conformed at htakes ⊢
  cases htakes with
  | plain _ | bulleted _ _ | stripped _ _ => rfl

/-- The payload of a slide of text is accepted, whatever the title, the text and the
items. -/
theorem Sound.accepts_textPayload (h : a.Sound) (title content : String)
    (items : List String) :
    a.narrative.dataSchema.accepts (a.textPayload title content items) = true :=
  (Component.conform_data?_iff.mp (h.conform_data?_narrative title content items)).accepts

/-- The payload of a slide of text has bullets if there are any and they are allowed, and
nothing else besides the title and the content. -/
theorem Sound.textPayload_cases (h : a.Sound) (title content : String) (items : List String) :
    (items ≠ [] ∧ a.narrative.dataSchema.Allows "bullets" (.ofStrings items)) ∧
        a.textPayload title content items =
          .object (("bullets", .ofStrings items) :: Binding.textMembers title content) ∨
      (items = [] ∨ ¬ a.narrative.dataSchema.Allows "bullets" (.ofStrings items)) ∧
        a.textPayload title content items = .object (Binding.textMembers title content) := by
  have htakes := h.takesText title content items
  unfold textPayload
  generalize a.narrative.conform (Binding.narrative title content items) = conformed at htakes ⊢
  cases htakes with
  | plain hitems => exact .inr ⟨.inl hitems, rfl⟩
  | bulleted hitems hallows => exact .inl ⟨⟨hitems, hallows⟩, rfl⟩
  | stripped _ hnot => exact .inr ⟨.inr hnot, rfl⟩

theorem Sound.mentioned_textPayload (h : a.Sound) (s : Section) :
    s.Mentioned (a.textPayload s.title s.content s.items) := by
  obtain ⟨members, hmembers, hcontent, htitle⟩ : ∃ members,
      a.textPayload s.title s.content s.items = .object members ∧
      members.lookup "content" = some (.string s.content) ∧
      members.lookup "title" = some (.string
        (if Text.isBlankText s.title then "Overview" else Text.trim s.title)) := by
    rcases h.textPayload_cases s.title s.content s.items with ⟨_, hpayload⟩ | ⟨_, hpayload⟩
    · exact ⟨_, hpayload, rfl, rfl⟩
    · exact ⟨_, hpayload, rfl, rfl⟩
  rw [hmembers]
  cases hblank : Text.isBlankText s.title with
  | false =>
      rw [hblank] at htitle
      exact .title hblank (.of_lookup htitle) (Text.trim_trim s.title)
  | true =>
      cases hbody : Text.isBlankText s.content with
      | true => exact .blank hblank hbody
      | false =>
          exact .body hbody (.of_lookup hcontent) (Text.occursIn_iff.mp (Text.occursIn_trim _))

/-- With the anchors of an assembly the payload of a slide of text is accepted. It holds the title
and the content, all of the bullets if there are any and the component for text allows them, and
nothing else. Conforming it never fails. -/
theorem outcome_of_textPayload {deck : Content} {components : List Component}
    (h : find deck components = .ok a) (title content : String) (items : List String) :
    (a.narrative.dataSchema.validate .strict (a.textPayload title content items)).valid = true ∧
    (items ≠ [] → a.narrative.dataSchema.Allows "bullets" (.ofStrings items) →
      a.textPayload title content items =
        .object (("bullets", .ofStrings items) :: Binding.textMembers title content)) ∧
    (items = [] ∨ ¬ a.narrative.dataSchema.Allows "bullets" (.ofStrings items) →
      a.textPayload title content items = .object (Binding.textMembers title content)) ∧
    ∀ reason, a.narrative.conform (Binding.narrative title content items) ≠ .invalid reason := by
  obtain ⟨_, hsound⟩ := find_eq_ok h
  refine ⟨hsound.accepts_textPayload title content items, ?_, ?_, ?_⟩
  · intro hitems hallows
    rcases hsound.textPayload_cases title content items with ⟨_, hpayload⟩ | ⟨hplain, _⟩
    · exact hpayload
    · exact absurd hallows (hplain.resolve_left hitems)
  · intro hplain
    rcases hsound.textPayload_cases title content items with
      ⟨⟨hitems, hallows⟩, _⟩ | ⟨_, hpayload⟩
    · exact absurd hallows (hplain.resolve_left hitems)
    · exact hpayload
  · intro reason hinvalid
    have hdata := hsound.conform_data?_narrative title content items
    rw [hinvalid] at hdata
    cases hdata

/-- Two bullets are shown below a title that stands in for a blank one. Seven are too many for
the component, and none of them is shown. -/
theorem outcome_of_textPayload_fullTextNarrative :
    ∃ a, find ⟨"Plan", [{ title := "Costs" }]⟩
        [Library.minimalCover, Library.fullTextNarrative] = .ok a ∧
      (a.narrative.dataSchema.validate .strict
        (a.textPayload "  " " Costs fell." ["Rent", "Staff"])).valid = true ∧
      a.textPayload "  " " Costs fell." ["Rent", "Staff"] =
        .object [("bullets", .ofStrings ["Rent", "Staff"]),
          ("content", .string " Costs fell."), ("title", .string "Overview")] ∧
      (a.narrative.dataSchema.validate .strict
        (a.textPayload " Costs " "" (List.replicate 7 "Rent"))).valid = true ∧
      a.textPayload " Costs " "" (List.replicate 7 "Rent") =
        .object [("content", .string ""), ("title", .string "Costs")] ∧
      ∀ reason, a.narrative.conform
        (Binding.narrative " Costs " "" (List.replicate 7 "Rent")) ≠ .invalid reason := by
  have hfind : find ⟨"Plan", [{ title := "Costs" }]⟩
      [Library.minimalCover, Library.fullTextNarrative] =
        .ok ⟨[Library.minimalCover, Library.fullTextNarrative], Library.fullTextNarrative⟩ := by
    have hcover : (Library.minimalCover.category == .narrative) = false := rfl
    have htext : (Library.fullTextNarrative.category == .narrative) = true := rfl
    have haccepts : Library.fullTextNarrative.dataSchema.accepts
        (Binding.narrative "Title" "Content" []) = true := by decide +kernel
    refine find_eq_ok_iff.mpr ⟨rfl, List.cons_ne_nil _ _, List.cons_ne_nil _ _, rfl, ?_⟩
    simp [narratives, hcover, htext, haccepts]
  have hallows : ∀ {items : List String},
      Library.fullTextNarrative.dataSchema.Allows "bullets" (.ofStrings items) ↔
        items.length ≤ 6 := by
    simp [Schema.Allows, Library.fullTextNarrative, Schema.matches_ofStrings_iff]
  obtain ⟨hvalid, hbullets, _, _⟩ :=
    outcome_of_textPayload hfind "  " " Costs fell." ["Rent", "Staff"]
  obtain ⟨hvalid', _, hplain, hnever⟩ :=
    outcome_of_textPayload hfind " Costs " "" (List.replicate 7 "Rent")
  refine ⟨_, hfind, hvalid, ?_, hvalid', ?_, hnever⟩
  · exact hbullets (List.cons_ne_nil _ _) (hallows.mpr (by decide))
  · exact hplain (.inr (mt hallows.mp (by decide)))

end Anchors

end SlideDeck
