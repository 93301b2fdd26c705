import SlideDeck.Assembly.Reconciling
import SlideDeck.Proofs.Text.Trimming

/-!
# Sections that a payload mentions

A payload mentions a section by any of the texts in it, however deep it lies: by one that
is the title but for outer blanks, or by one that the body occurs in. A section without a
title and a body asks for no mention.
-/

namespace SlideDeck

/-- A text is somewhere in a value. -/
inductive Json.HasText (text : String) : Json → Prop
  | here : HasText text (.string text)
  | item {items : List Json} {j : Json} (hmem : j ∈ items) (h : HasText text j) :
      HasText text (.array items)
  | member {members : List (String × Json)} {name : String} {j : Json}
      (hmem : (name, j) ∈ members) (h : HasText text j) : HasText text (.object members)

namespace Json

theorem HasText.of_lookup {members : List (String × Json)} {name text : String}
    (h : members.lookup name = some (.string text)) : (Json.object members).HasText text := by
  obtain ⟨before, after, rfl, _⟩ := List.lookup_eq_some_iff.mp h
  exact .member (List.mem_append_right _ List.mem_cons_self) .here

mutual

/-- The search through a value finds what is somewhere in it. -/
theorem anyText_iff {test : String → Bool} (j : Json) :
    j.anyText test = true ↔ ∃ text, j.HasText text ∧ test text = true := by
  cases j with
  | string s =>
      constructor
      · exact fun h => ⟨s, .here, h⟩
      · rintro ⟨_, ⟨⟩, h⟩
        exact h
  | array items =>
      rw [anyText, anyTextOfItems_iff items]
      constructor
      · rintro ⟨j, hmem, text, htext, htest⟩
        exact ⟨text, .item hmem htext, htest⟩
      · rintro ⟨text, htext, htest⟩
        cases htext with
        | item hmem htext => exact ⟨_, hmem, text, htext, htest⟩
  | object members =>
      rw [anyText, anyTextOfMembers_iff members]
      constructor
      · rintro ⟨⟨name, j⟩, hmem, text, htext, htest⟩
        exact ⟨text, .member hmem htext, htest⟩
      · rintro ⟨text, htext, htest⟩
        cases htext with
        | member hmem htext => exact ⟨_, hmem, text, htext, htest⟩
  | null | bool _ | number _ =>
      constructor
      · exact fun h => nomatch h
      · rintro ⟨_, ⟨⟩, _⟩

theorem anyTextOfItems_iff {test : String → Bool} (items : List Json) :
    anyTextOfItems test items = true ↔
      ∃ j ∈ items, ∃ text, j.HasText text ∧ test text = true := by
  cases items with
  | nil => simp [anyTextOfItems]
  | cons first rest =>
      simp only [anyTextOfItems, Bool.or_eq_true, anyText_iff first, anyTextOfItems_iff rest,
        List.mem_cons, exists_eq_or_imp]

theorem anyTextOfMembers_iff {test : String → Bool} (members : List (String × Json)) :
    anyTextOfMembers test members = true ↔
      ∃ m ∈ members, ∃ text, m.2.HasText text ∧ test text = true := by
  cases members with
  | nil => simp [anyTextOfMembers]
  | cons first rest =>
      obtain ⟨name, value⟩ := first
      simp only [anyTextOfMembers, Bool.or_eq_true, anyText_iff value, anyTextOfMembers_iff rest,
        List.mem_cons, exists_eq_or_imp]

end

end Json

namespace Section

/-- The ways in which a payload mentions a section. -/
inductive Mentioned (s : Section) (data : Json) : Prop
  | blank (htitle : Text.isBlankText s.title = true)
      (hcontent : Text.isBlankText s.content = true)
  | title (hblank : Text.isBlankText s.title = false) {text : String}
      (htext : data.HasText text) (htrim : Text.trim text = Text.trim s.title)
  | body (hblank : Text.isBlankText s.content = false) {text : String}
      (htext : data.HasText text) (hoccurs : (Text.trim s.content).toList <:+: text.toList)

theorem carriedBy_iff {s : Section} {text : String} :
    s.carriedBy text = true ↔
      Text.isBlankText s.title = false ∧ Text.trim text = Text.trim s.title ∨
        Text.isBlankText s.content = false ∧
          (Text.trim s.content).toList <:+: text.toList := by
  unfold carriedBy
  simp only [Text.isEmpty_trim, Bool.or_eq_true, Bool.and_eq_true, Bool.not_eq_true',
    beq_iff_eq, Text.occursIn_iff]

theorem mentionedIn_iff {s : Section} {data : Json} :
    s.mentionedIn data = true ↔ s.Mentioned data := by
  unfold mentionedIn
  rw [Bool.or_eq_true, Bool.and_eq_true, Json.anyText_iff]
  constructor
  · rintro (⟨htitle, hcontent⟩ | ⟨text, htext, hcarried⟩)
    · exact .blank htitle hcontent
    · rcases carriedBy_iff.mp hcarried with ⟨hblank, htrim⟩ | ⟨hblank, hoccurs⟩
      · exact .title hblank htext htrim
      · exact .body hblank htext hoccurs
  · intro h
    cases h with
    | blank htitle hcontent => exact .inl ⟨htitle, hcontent⟩
    | title hblank htext htrim =>
        exact .inr ⟨_, htext, carriedBy_iff.mpr (.inl ⟨hblank, htrim⟩)⟩
    | body hblank htext hoccurs =>
        exact .inr ⟨_, htext, carriedBy_iff.mpr (.inr ⟨hblank, hoccurs⟩)⟩

end Section

end SlideDeck
