import SlideDeck.Proofs.Binding.Labels
import SlideDeck.Proofs.Related
import SlideDeck.Proofs.Text.Trimming

/-!
# Where payloads come from

All that a payload holds is taken from the material that it is bound from. Its texts are parts
of the texts of the material, but for the labels of the two sides of a comparison, and its
numbers are read from the data points. An array holds what single items or single data points
give, in the order in which these are.
-/

namespace SlideDeck

/-! ## Leaves -/

/-- A value without values in it. -/
def Json.IsLeaf (j : Json) : Prop := j.kind ≠ .array ∧ j.kind ≠ .object

/-- A leaf is somewhere in a value, however deep it lies. -/
inductive Json.HasLeaf : Json → Json → Prop
  | here {leaf : Json} (hleaf : leaf.IsLeaf) : HasLeaf leaf leaf
  | item {items : List Json} {j leaf : Json} (hmem : j ∈ items) (h : HasLeaf j leaf) :
      HasLeaf (.array items) leaf
  | member {members : List (String × Json)} {name : String} {j leaf : Json}
      (hmem : (name, j) ∈ members) (h : HasLeaf j leaf) : HasLeaf (.object members) leaf

/-- The texts of a data point. -/
def DataPoint.texts (p : DataPoint) : List String :=
  [p.label, p.value] ++ p.change.toList ++ p.target.toList

/-- The texts of some material. -/
def Material.texts (m : Material) : List String :=
  [m.title, m.content] ++ m.items ++ m.dataPoints.flatMap DataPoint.texts ++ m.message.toList

/-- A leaf is taken from texts and data points: a part of one of the texts, or the number that
the value or the change of one of the data points begins with. A number that is too great for
a double leaves null. -/
inductive Json.LeafOf (texts : List String) (points : List DataPoint) : Json → Prop
  | text {source text : String} (hmem : source ∈ texts)
      (hpart : text.toList <:+: source.toList) : LeafOf texts points (.string text)
  | number {p : DataPoint} {x : Float} {n : Json.Number} (hmem : p ∈ points)
      (hfigure : p.numericValue? = some x ∨ p.changeValue? = some x)
      (hnumber : Json.Number.ofFloat? x = some n) : LeafOf texts points (.number n)
  | infinite {p : DataPoint} {x : Float} (hmem : p ∈ points)
      (hfigure : p.numericValue? = some x ∨ p.changeValue? = some x)
      (hnumber : Json.Number.ofFloat? x = none) : LeafOf texts points .null

/-- All leaves of a value are taken from texts and data points. -/
def Json.TakenFrom (texts : List String) (points : List DataPoint) (j : Json) : Prop :=
  ∀ leaf, j.HasLeaf leaf → leaf.LeafOf texts points

namespace Json.TakenFrom

variable {texts more : List String} {points others : List DataPoint} {j : Json}

theorem mono (h : j.TakenFrom texts points) (htexts : texts ⊆ more) (hpoints : points ⊆ others) :
    j.TakenFrom more others := by
  intro leaf hleaf
  cases h leaf hleaf with
  | text hmem hpart => exact .text (htexts hmem) hpart
  | number hmem hfigure hnumber => exact .number (hpoints hmem) hfigure hnumber
  | infinite hmem hfigure hnumber => exact .infinite (hpoints hmem) hfigure hnumber

theorem of_leafOf (h : j.LeafOf texts points) : j.TakenFrom texts points := by
  intro leaf hleaf
  cases hleaf with
  | here _ => exact h
  | item _ _ | member _ _ => cases h

theorem string {source text : String} (hmem : source ∈ texts)
    (hpart : text.toList <:+: source.toList) : (Json.string text).TakenFrom texts points :=
  of_leafOf (.text hmem hpart)

theorem whole {source : String} (hmem : source ∈ texts) :
    (Json.string source).TakenFrom texts points :=
  string hmem (List.infix_refl _)

theorem ofFloat {p : DataPoint} {x : Float} (hmem : p ∈ points)
    (hfigure : p.numericValue? = some x ∨ p.changeValue? = some x) :
    (Json.ofFloat x).TakenFrom texts points := by
  unfold Json.ofFloat
  cases hnumber : Json.Number.ofFloat? x with
  | none => exact of_leafOf (.infinite hmem hfigure hnumber)
  | some n => exact of_leafOf (.number hmem hfigure hnumber)

theorem array {items : List Json} (h : ∀ j ∈ items, j.TakenFrom texts points) :
    (Json.array items).TakenFrom texts points := by
  intro leaf hleaf
  cases hleaf with
  | here hleaf => exact absurd rfl hleaf.1
  | item hmem hleaf => exact h _ hmem leaf hleaf

theorem object {members : List (String × Json)}
    (h : ∀ member ∈ members, member.2.TakenFrom texts points) :
    (Json.object members).TakenFrom texts points := by
  intro leaf hleaf
  cases hleaf with
  | here hleaf => exact absurd rfl hleaf.2
  | member hmem hleaf => exact h _ hmem leaf hleaf

end Json.TakenFrom

/-! ## Labels and texts of items -/

namespace Label

variable {item label text : String}

theorem Written.isInfix {label text : List Char} (h : Written item label text) :
    label <:+: item.toList ∧ text <:+: item.toList := by
  cases h with
  | @colon head tail hitem hlabel htext =>
      subst hlabel htext
      have hhead : head <:+: item.toList := ⟨[], ':' :: tail, hitem.symm⟩
      have htail : tail <:+: item.toList := ⟨head ++ [':'], [], by simp [hitem]⟩
      exact ⟨(Text.isInfix_trimChars _).trans hhead, (Text.isInfix_trimChars _).trans htail⟩
  | @hyphen head tail _ hitem hlabel htext =>
      subst hlabel htext
      have hhead : head <:+: item.toList := ⟨[], [' ', '-', ' '] ++ tail, by simp [hitem]⟩
      have htail : tail <:+: item.toList := ⟨head ++ [' ', '-', ' '], [], by simp [hitem]⟩
      exact ⟨(Text.isInfix_trimChars _).trans hhead, (Text.isInfix_trimChars _).trans htail⟩

/-- The label and the text of an item are parts of it. -/
theorem isInfix_of_split? (h : split? item = some (label, text)) :
    label.toList <:+: item.toList ∧ text.toList <:+: item.toList :=
  (written_of_split? h).1.isInfix

end Label

namespace Binding

variable {m : Material} {name : String} {shape : Schema} {value : Json}

/-! ## Arrays in the order of their sources -/

/-- The values of an array are taken from single items or from single data points of the
material, in their order. -/
inductive InOrder (m : Material) (values : List Json) : Prop
  | items {taken : List String} (hsublist : taken.Sublist m.items)
      (hvalues : List.Forall₂ (fun item value => value.TakenFrom [item] []) taken values)
  | points {taken : List DataPoint} (hsublist : taken.Sublist m.dataPoints)
      (hvalues : List.Forall₂ (fun p value => value.TakenFrom p.texts [p]) taken values)

namespace InOrder

variable {values : List Json}

theorem of_items {f : String → Option Json}
    (hf : ∀ item value, f item = some value → value.TakenFrom [item] []) :
    InOrder m (m.items.filterMap f) := by
  obtain ⟨taken, hsublist, hvalues⟩ := exists_sublist_filterMap hf m.items
  exact .items hsublist hvalues

theorem of_points {f : DataPoint → Option Json}
    (hf : ∀ p value, f p = some value → value.TakenFrom p.texts [p]) :
    InOrder m (m.dataPoints.filterMap f) := by
  obtain ⟨taken, hsublist, hvalues⟩ := exists_sublist_filterMap hf m.dataPoints
  exact .points hsublist hvalues

theorem take (h : InOrder m values) (n : Nat) : InOrder m (values.take n) := by
  cases h with
  | items hsublist hvalues =>
      exact .items ((List.take_sublist n _).trans hsublist) (List.forall₂_take n hvalues)
  | points hsublist hvalues =>
      exact .points ((List.take_sublist n _).trans hsublist) (List.forall₂_take n hvalues)

theorem takenFrom (h : InOrder m values) :
    (Json.array values).TakenFrom m.texts m.dataPoints := by
  refine .array fun value hvalue => ?_
  cases h with
  | items hsublist hvalues =>
      obtain ⟨item, hitem, htaken⟩ := Forall₂.exists_mem hvalues hvalue
      have hmem : item ∈ m.texts := by simp [Material.texts, hsublist.mem hitem]
      exact htaken.mono (List.cons_subset.mpr ⟨hmem, List.nil_subset _⟩) (List.nil_subset _)
  | points hsublist hvalues =>
      obtain ⟨p, hp, htaken⟩ := Forall₂.exists_mem hvalues hvalue
      have hmem := hsublist.mem hp
      refine htaken.mono (fun text htext => ?_) (List.cons_subset.mpr ⟨hmem, List.nil_subset _⟩)
      have hpoint : text ∈ m.dataPoints.flatMap DataPoint.texts :=
        List.mem_flatMap.mpr ⟨p, hmem, htext⟩
      simp [Material.texts, hpoint]

end InOrder

/-! ## Records -/

theorem takenFrom_dataPointField {p : DataPoint} {type : Option SchemaType}
    (h : dataPointField p name type = some value) : value.TakenFrom p.texts [p] := by
  have hp : p ∈ [p] := List.mem_singleton_self p
  unfold dataPointField at h
  split at h
  next =>
    cases h
    exact .whole (by simp [DataPoint.texts])
  next =>
    split at h
    next =>
      obtain ⟨x, hx, rfl⟩ := Option.map_eq_some_iff.mp h
      exact .ofFloat hp (.inl hx)
    next =>
      cases h
      exact .whole (by simp [DataPoint.texts])
  next =>
    obtain ⟨x, hx, rfl⟩ := Option.map_eq_some_iff.mp h
    exact .ofFloat hp (.inr hx)
  next =>
    obtain ⟨change, hchange, rfl⟩ := Option.map_eq_some_iff.mp h
    exact .whole (by simp [DataPoint.texts, hchange])
  next =>
    obtain ⟨target, htarget, rfl⟩ := Option.map_eq_some_iff.mp h
    exact .whole (by simp [DataPoint.texts, htarget])
  next => cases h

theorem takenFrom_dataPointRecord {s : Schema} {p : DataPoint}
    (h : dataPointRecord s p = some value) : value.TakenFrom p.texts [p] := by
  unfold dataPointRecord at h
  dsimp only at h
  split at h
  next =>
    cases h
    refine .object fun member hmember => ?_
    obtain ⟨⟨name, shape⟩, _, hfield⟩ := List.mem_filterMap.mp hmember
    obtain ⟨value, hvalue, rfl⟩ := Option.map_eq_some_iff.mp hfield
    exact takenFrom_dataPointField hvalue
  next => cases h

theorem takenFrom_milestone {item : String} (h : milestone item = some value) :
    value.TakenFrom [item] [] := by
  obtain ⟨⟨date, event⟩, hsplit, rfl⟩ := Option.map_eq_some_iff.mp h
  obtain ⟨hdate, hevent⟩ := Label.isInfix_of_split? hsplit
  refine .object fun member hmember => ?_
  rcases List.mem_pair.mp hmember with rfl | rfl
  · exact .string (List.mem_singleton_self item) hdate
  · exact .string (List.mem_singleton_self item) hevent

theorem takenFrom_labelledRecord (s : Schema) (item : String) :
    (labelledRecord s item).TakenFrom [item] [] := by
  have hmem := List.mem_singleton_self item
  have hitem : (Json.ofMembers [("label", .string item)]).TakenFrom [item] [] := by
    refine .object fun member hmember => ?_
    rw [List.mem_singleton.mp hmember]
    exact .whole hmem
  unfold labelledRecord
  split
  next label description hsplit =>
    split
    next =>
      obtain ⟨hlabel, hdescription⟩ := Label.isInfix_of_split? hsplit
      refine .object fun member hmember => ?_
      rcases List.mem_pair.mp hmember with rfl | rfl
      · exact .string hmem hdescription
      · exact .string hmem hlabel
    next => exact hitem
  next => exact hitem

/-! ## Arrays -/

theorem inOrder_records {s : Schema} {values : List Json} (h : records s m = some values) :
    InOrder m values := by
  unfold records at h
  split at h
  next =>
    cases h
    exact .of_items fun _ _ => takenFrom_milestone
  next =>
    split at h
    next =>
      cases h
      exact .of_points fun _ _ => takenFrom_dataPointRecord
    next =>
      split at h
      next =>
        cases h
        rw [← List.filterMap_eq_map]
        refine .of_items fun item value hvalue => ?_
        cases hvalue
        exact takenFrom_labelledRecord s item
      next => cases h

theorem inOrder_texts : InOrder m (m.items.map .string) := by
  rw [← List.filterMap_eq_map]
  refine .of_items fun item value hvalue => ?_
  cases hvalue
  exact .whole (List.mem_singleton_self item)

theorem inOrder_itemsOf (name : String) :
    InOrder m ((Label.itemsOf name m.items).map .string) := by
  rw [Label.itemsOf_eq_filterMap, List.map_filterMap]
  refine .of_items fun item value hvalue => ?_
  obtain ⟨text, htext, rfl⟩ := Option.map_eq_some_iff.mp hvalue
  obtain ⟨label, hsplit, _⟩ := Label.textUnder_eq_some_iff.mp htext
  exact .string (List.mem_singleton_self item) (Label.isInfix_of_split? hsplit).2

theorem inOrder_arrayItems {values : List Json} (h : arrayItems name shape m = some values) :
    InOrder m values := by
  have hplain : ∀ {plain : Bool},
      (if plain = true then some (m.items.map .string) else none) = some values →
      InOrder m values := by
    intro plain hvalues
    split at hvalues
    next =>
      cases hvalues
      exact inOrder_texts
    next => cases hvalues
  unfold arrayItems at h
  split at h
  next =>
    cases h
    exact inOrder_itemsOf name
  next =>
    split at h
    next => exact hplain h
    next =>
      split at h
      next => exact inOrder_records h
      next => exact hplain h
      next => exact hplain h
      next => cases h

/-- An array that is bound has values, no more than its schema allows, in their order. -/
theorem exists_of_arrayValue (h : arrayValue name shape m = some value) :
    ∃ values, value = .array values ∧ values ≠ [] ∧
      (∀ most, shape.maxItems = some most → values.length ≤ most) ∧ InOrder m values := by
  obtain ⟨items, hitems, hkept⟩ := Option.bind_eq_some_iff.mp h
  have horder := inOrder_arrayItems hitems
  dsimp only at hkept
  split at hkept
  next => cases hkept
  next hnonempty =>
    cases hkept
    refine ⟨_, rfl, mt List.isEmpty_iff.mpr hnonempty, ?_, ?_⟩
    · intro most hmost
      rw [hmost]
      exact List.length_take_le most items
    · cases shape.maxItems with
      | none => exact horder
      | some most => exact horder.take most

/-! ## Members -/

/-- One side of a comparison: its items in their order, under the name of the side with a
capital letter in front. -/
inductive Side (m : Material) : String → Json → Prop
  | intro {name label : String} {values : List Json}
      (hname : (name, label) ∈ [("before", "Before"), ("after", "After")])
      (hnonempty : values ≠ []) (horder : InOrder m values) :
      Side m name (.object [("items", .array values), ("label", .string label)])

/-- What a member of some shape is offered. Its leaves are taken from the material, but for the
label of one side of a comparison; an array has values, no more than the shape allows, in the
order of their sources. -/
structure Offered (m : Material) (name : String) (shape : Schema) (value : Json) : Prop where
  source : value.TakenFrom m.texts m.dataPoints ∨ Side m name value
  array : ∀ values, value = .array values → values ≠ [] ∧
    (∀ most, shape.maxItems = some most → values.length ≤ most) ∧ InOrder m values

theorem Offered.of_part {source text : String} (hmem : source ∈ m.texts)
    (hpart : text.toList <:+: source.toList) : Offered m name shape (.string text) where
  source := .inl (.string hmem hpart)
  array := nofun

theorem Offered.of_text {text : String} (hmem : text ∈ m.texts) :
    Offered m name shape (.string text) :=
  .of_part hmem (List.infix_refl _)

theorem offered_textValue {text : String} (hmem : text ∈ m.texts)
    (h : textValue text = some value) : Offered m name shape value := by
  unfold textValue at h
  split at h
  next => cases h
  next =>
    cases h
    refine .of_part hmem ?_
    rw [Text.toList_trim]
    exact Text.isInfix_trimChars _

theorem offered_arrayValue (h : arrayValue name shape m = some value) :
    Offered m name shape value := by
  obtain ⟨values, rfl, hnonempty, hmost, horder⟩ := exists_of_arrayValue h
  refine ⟨.inl horder.takenFrom, fun others hothers => ?_⟩
  cases hothers
  exact ⟨hnonempty, hmost, horder⟩

theorem offered_group (hname : name = "before" ∨ name = "after") (h : group name m = some value) :
    Offered m name shape value := by
  unfold group at h
  split at h
  next => cases h
  next items hitems =>
    cases h
    have hvalues : (Label.itemsOf name m.items).map Json.string ≠ [] := by simpa using hitems
    have hlabel : (name, Label.capitalize name) ∈ [("before", "Before"), ("after", "After")] := by
      rcases hname with rfl | rfl <;> decide
    exact ⟨.inr (.intro hlabel hvalues (inOrder_itemsOf name)), nofun⟩

theorem offered_of_field (h : field name shape m = some value) : Offered m name shape value := by
  have htitle : m.title ∈ m.texts := by simp [Material.texts]
  have hcontent : m.content ∈ m.texts := by simp [Material.texts]
  have hpoint : ∀ p text, m.dataPoints.head? = some p → text ∈ p.texts → text ∈ m.texts := by
    intro p text hp htext
    have hmem : text ∈ m.dataPoints.flatMap DataPoint.texts :=
      List.mem_flatMap.mpr ⟨p, List.mem_of_mem_head? hp, htext⟩
    simp [Material.texts, hmem]
  unfold field at h
  split at h
  next => exact offered_textValue htitle h
  split at h
  next => exact offered_textValue hcontent h
  split at h
  next =>
    obtain ⟨message, hmessage, rfl⟩ := Option.map_eq_some_iff.mp h
    exact .of_text (by simp [Material.texts, hmessage])
  split at h
  next =>
    obtain ⟨p, hp, rfl⟩ := Option.map_eq_some_iff.mp h
    exact .of_text (hpoint p _ hp (by simp [DataPoint.texts]))
  split at h
  next =>
    obtain ⟨p, hp, rfl⟩ := Option.map_eq_some_iff.mp h
    exact .of_text (hpoint p _ hp (by simp [DataPoint.texts]))
  split at h
  next =>
    obtain ⟨change, hchange, rfl⟩ := Option.map_eq_some_iff.mp h
    obtain ⟨p, hp, hchange⟩ := Option.bind_eq_some_iff.mp hchange
    exact .of_text (hpoint p _ hp (by simp [DataPoint.texts, hchange]))
  split at h
  next hside =>
    have hname : name = "before" ∨ name = "after" := by
      simpa using (Bool.and_eq_true_iff.mp hside).1
    exact offered_group hname h
  split at h
  next => exact offered_arrayValue h
  next => cases h

/-! ## Payloads -/

/-- Members are bound for properties of the schema, in the order of these. -/
theorem members_keys_sublist (s : Schema) (m : Material) :
    ((members s m).map Prod.fst).Sublist (s.properties.map Prod.fst) := by
  have hname : ∀ (property : String × Schema) (member : String × Json),
      (field property.1 property.2 m).map (property.1, ·) = some member →
      property.1 = member.1 := by
    intro property member h
    obtain ⟨value, _, rfl⟩ := Option.map_eq_some_iff.mp h
    rfl
  obtain ⟨taken, hsublist, hnames⟩ := exists_sublist_filterMap hname s.properties
  have heq : taken.map Prod.fst = (members s m).map Prod.fst := by
    rw [← List.forall₂_eq_eq_eq, List.forall₂_map_left_iff, List.forall₂_map_right_iff]
    exact hnames
  rw [← heq]
  exact hsublist.map _

theorem offered_of_mem_members {s : Schema} (h : (name, value) ∈ members s m) :
    ∃ shape, (name, shape) ∈ s.properties ∧ Offered m name shape value := by
  obtain ⟨⟨other, shape⟩, hproperty, hfield⟩ := List.mem_filterMap.mp h
  obtain ⟨_, hvalue, heq⟩ := Option.map_eq_some_iff.mp hfield
  cases heq
  exact ⟨shape, hproperty, offered_of_field hvalue⟩

/-- Nothing is invented. A payload has members for properties of the schema alone, as many as
are counted and, if the properties have different names, of different names. All texts in it
are parts of texts of the material, but for the label of one side of a comparison, which is the
name of the member with a capital letter in front; all numbers in it are those that the values
and the changes of data points begin with. An array has at least one value and no more than its
schema allows, taken from single items or single data points in their order. -/
theorem payload_from_material (s : Schema) (m : Material) :
    ∃ members, payload s m = .object members ∧ boundFields s m = members.length ∧
      (members.map Prod.fst).Sublist (s.properties.map Prod.fst) ∧
      ((s.properties.map Prod.fst).Nodup → (members.map Prod.fst).Nodup) ∧
      ∀ name value, (name, value) ∈ members → ∃ shape, (name, shape) ∈ s.properties ∧
        (value.TakenFrom m.texts m.dataPoints ∨ Side m name value) ∧
        ∀ values, value = .array values → values ≠ [] ∧
          (∀ most, shape.maxItems = some most → values.length ≤ most) ∧ InOrder m values := by
  have hkeys := members_keys_sublist s m
  refine ⟨members s m, rfl, rfl, hkeys, fun hdistinct => hkeys.nodup hdistinct, ?_⟩
  intro name value hmember
  obtain ⟨shape, hproperty, hoffered⟩ := offered_of_mem_members hmember
  exact ⟨shape, hproperty, hoffered.source, hoffered.array⟩

/-- A side of a comparison, two milestones at most, and a title. -/
def milestoneSchema : Schema where
  properties := [
    ("after", { type := some .object }),
    ("milestones", {
      type := some .array, maxItems := some 2,
      items := some { type := some .object, required := ["date", "event"] } }),
    ("subtitle", { type := some .string }),
    ("title", { type := some .string })]

/-- A plan with three items that are labelled. -/
def milestonePlan : Material where
  title := " Plan "
  items := ["Q1: beta", "a loose note", "After - fast", "Q2: launch"]

/-- The last item finds no room, the loose one is no milestone, and a subtitle there is none. -/
theorem payload_from_material_milestonePlan :
    ∃ milestones,
      payload milestoneSchema milestonePlan = .object [
        ("after", .object [("items", .array [.string "fast"]), ("label", .string "After")]),
        ("milestones", .array milestones), ("title", .string "Plan")] ∧
      (["after", "milestones", "title"].Nodup ∧ boundFields milestoneSchema milestonePlan = 3) ∧
      milestones ≠ [] ∧ milestones.length ≤ 2 ∧ InOrder milestonePlan milestones := by
  obtain ⟨members, hpayload, hcount, _, hnodup, hmembers⟩ :=
    payload_from_material milestoneSchema milestonePlan
  have hbound : payload milestoneSchema milestonePlan = .object [
      ("after", .object [("items", .array [.string "fast"]), ("label", .string "After")]),
      ("milestones", .array [
        .object [("date", .string "Q1"), ("event", .string "beta")],
        .object [("date", .string "After"), ("event", .string "fast")]]),
      ("title", .string "Plan")] := by decide +kernel
  obtain rfl := Json.object.inj (hpayload.symm.trans hbound)
  obtain ⟨shape, hshape, _, harray⟩ :=
    hmembers "milestones" _ (List.mem_cons_of_mem _ List.mem_cons_self)
  obtain ⟨hnonempty, hmost, horder⟩ := harray _ rfl
  have hlimit : shape.maxItems = some 2 := by
    simp only [milestoneSchema, List.mem_cons, Prod.mk.injEq] at hshape
    obtain rfl : shape = _ := by simpa using hshape
    rfl
  exact ⟨_, hbound, ⟨hnodup (by decide), hcount⟩, hnonempty, hmost 2 hlimit, horder⟩

end Binding

end SlideDeck
