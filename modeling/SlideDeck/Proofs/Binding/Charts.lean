import SlideDeck.Binding.Basic
import SlideDeck.Library.Figures
import SlideDeck.Proofs.Content.Figures

/-!
# Data points of charts

A chart takes the values of data points as numbers. A data point whose value is no number is left
out of it, also when the value has digits that its first figure does not write a decimal with.
-/

namespace SlideDeck.Binding

variable {s : Schema} {p : DataPoint}

/-- A schema for the records of a chart: they have a number for a value, and no more than a label
beside it. -/
structure IsChartRecord (s : Schema) : Prop where
  requires_value : "value" ∈ s.required
  requires_only : ∀ name ∈ s.required, name = "label" ∨ name = "value"
  declared : ∀ name ∈ s.required, ∃ shape, (name, shape) ∈ s.properties
  numeric : ∀ shape, ("value", shape) ∈ s.properties →
    shape.type = some .number ∨ shape.type = some .integer

/-- A data point has a record when each member that is required is declared and has a value. -/
theorem isSome_dataPointRecord_iff : (dataPointRecord s p).isSome = true ↔
    ∀ name ∈ s.required, ∃ shape, (name, shape) ∈ s.properties ∧
      (dataPointField p name shape.type).isSome = true := by
  unfold dataPointRecord
  dsimp only
  rw [Option.isSome_ite, List.all_eq_true]
  refine forall₂_congr fun name _ => ?_
  rw [List.lookup_isSome_iff]
  constructor
  · rintro ⟨⟨_, value⟩, hmember, hname⟩
    obtain ⟨⟨other, shape⟩, hshape, hvalue⟩ := List.mem_filterMap.mp hmember
    obtain ⟨found, hfound, hpair⟩ := Option.map_eq_some_iff.mp hvalue
    obtain ⟨rfl, rfl⟩ := Prod.mk.inj hpair
    obtain rfl := eq_of_beq hname
    exact ⟨shape, hshape, by rw [hfound]; rfl⟩
  · rintro ⟨shape, hshape, hvalue⟩
    obtain ⟨value, hvalue⟩ := Option.isSome_iff_exists.mp hvalue
    refine ⟨(name, value), List.mem_filterMap.mpr ⟨(name, shape), hshape, ?_⟩,
      beq_self_eq_true name⟩
    rw [hvalue]
    rfl

/-- A chart shows the data points whose values are numbers. -/
theorem IsChartRecord.isSome_dataPointRecord_iff (hs : IsChartRecord s) :
    (dataPointRecord s p).isSome = true ↔ p.numericValue?.isSome = true := by
  have hvalue : ∀ shape, ("value", shape) ∈ s.properties →
      dataPointField p "value" shape.type = p.numericValue?.map Json.ofFloat := fun shape hshape =>
    if_pos (hs.numeric shape hshape)
  rw [Binding.isSome_dataPointRecord_iff]
  constructor
  · intro h
    obtain ⟨shape, hshape, hsome⟩ := h "value" hs.requires_value
    rwa [hvalue shape hshape, Option.isSome_map] at hsome
  · intro h name hname
    obtain ⟨shape, hshape⟩ := hs.declared name hname
    refine ⟨shape, hshape, ?_⟩
    rcases hs.requires_only name hname with rfl | rfl
    · rfl
    · rwa [hvalue shape hshape, Option.isSome_map]

/-- A text is a number just when its first figure is a decimal, and this is also when a chart shows
a data point with this value. So there is a digit in the text. The other way round, a text with a
digit is a number when there is no hyphen, minus or point in it. -/
theorem number_iff_isDecimal (text : String) : ∃ front figure back,
    Figure.FirstFigure text.toList front figure back ∧
      ((Figure.leading? text).isSome = true ↔ Figure.IsDecimal (Figure.plain figure)) ∧
      ((Figure.leading? text).isSome = true → ∃ c ∈ text.toList, Text.isAsciiDigit c = true) ∧
      ((∀ c ∈ text.toList, Figure.isMark c = false) →
        (∃ c ∈ text.toList, Text.isAsciiDigit c = true) → (Figure.leading? text).isSome = true) ∧
      ∀ s, IsChartRecord s → ∀ p : DataPoint, p.value = text →
        ((dataPointRecord s p).isSome = true ↔ Figure.IsDecimal (Figure.plain figure)) := by
  obtain ⟨front, figure, back, hfigure⟩ := Figure.exists_firstFigure text.toList
  have hnumber : (Figure.leading? text).isSome = true ↔ Figure.IsDecimal (Figure.plain figure) := by
    rw [Figure.isSome_leading?_iff, hfigure.run_eq]
  refine ⟨front, figure, back, hfigure, hnumber, fun h => ?_, fun hmarks hdigit => ?_,
    fun s hs p hp => ?_⟩
  · exact hfigure.exists_digit (hnumber.mp h)
  · exact hnumber.mpr (hfigure.isDecimal_of_digit hmarks hdigit)
  · rw [hs.isSome_dataPointRecord_iff, DataPoint.numericValue?, hp]
    exact hnumber

/-- The records of the bars of the library: a label and a number. -/
def barRecord : Schema :=
  ((Library.comparisonBars.dataSchema.property? "items").bind (·.items)).getD .anything

theorem isChartRecord_barRecord : IsChartRecord barRecord := by
  have hrequired : barRecord.required = ["label", "value"] := rfl
  have hproperties : barRecord.properties =
      [("label", { type := some .string }), ("value", { type := some .number })] := rfl
  refine ⟨?_, ?_, ?_, ?_⟩
  all_goals simp [hrequired, hproperties]

/-- Sales as they are written, with a currency and a unit. -/
def quarterSales : DataPoint := { label := "Sales", value := "$2,500.5K" }

theorem number_iff_isDecimal_quarterSales : ∃ front figure back,
    Figure.FirstFigure quarterSales.value.toList front figure back ∧
      Figure.IsDecimal (Figure.plain figure) ∧
      (dataPointRecord barRecord quarterSales).isSome = true := by
  obtain ⟨front, figure, back, hfigure, hnumber, _, _, hcharted⟩ :=
    number_iff_isDecimal quarterSales.value
  have hdecimal := hnumber.mp rfl
  exact ⟨front, figure, back, hfigure, hdecimal,
    (hcharted barRecord isChartRecord_barRecord quarterSales rfl).mpr hdecimal⟩

/-- A point or a hyphen in front of the digits, or a hyphen behind some of them, and a text is no
number. Its data point is left out of the bars. -/
theorem exists_digit_without_number :
    ((∃ c ∈ "approx. 5%".toList, Text.isAsciiDigit c = true) ∧
      Figure.leading? "approx. 5%" = none ∧
      dataPointRecord barRecord { label := "North", value := "approx. 5%" } = none) ∧
    ((∃ c ∈ "North-East 12".toList, Text.isAsciiDigit c = true) ∧
      Figure.leading? "North-East 12" = none) ∧
    (∃ c ∈ "2023-24".toList, Text.isAsciiDigit c = true) ∧ Figure.leading? "2023-24" = none := by
  exact ⟨⟨⟨'5', by decide, rfl⟩, rfl, rfl⟩, ⟨⟨'1', by decide, rfl⟩, rfl⟩,
    ⟨'2', by decide, rfl⟩, rfl⟩

end SlideDeck.Binding
