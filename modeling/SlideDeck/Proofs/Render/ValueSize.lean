import SlideDeck.Render.Value

/-!
# Capped and exact sizes

The size that a run charges for a value is no longer counted once it has passed the
cap. It is the exact size or both are above the cap, so a value that is charged
within a cap has no hidden excess and is charged the same under a greater one.
-/

namespace SlideDeck.Json

mutual

/-- The capped size of a value is its exact size, unless both are above the cap. -/
theorem cappedSize_cases (cap : Nat) (j : Json) :
    j.cappedSize cap = j.byteSize ∨ cap < j.cappedSize cap ∧ cap < j.byteSize := by
  cases j with
  | null | bool _ | number _ | string _ => exact .inl rfl
  | array items =>
      simpa only [cappedSize, byteSize] using cappedSizeOfItems_cases cap 8 items
  | object members =>
      simpa only [cappedSize, byteSize] using cappedSizeOfMembers_cases cap 8 members

theorem cappedSizeOfItems_cases (cap size : Nat) (items : List Json) :
    cappedSizeOfItems cap size items = size + byteSizeOfItems items ∨
      cap < cappedSizeOfItems cap size items ∧ cap < size + byteSizeOfItems items := by
  cases items with
  | nil => exact .inl rfl
  | cons j rest =>
      have hfirst := cappedSize_cases cap j
      have hrest := cappedSizeOfItems_cases cap (size + j.cappedSize cap) rest
      simp only [cappedSizeOfItems, byteSizeOfItems]
      split <;> omega

theorem cappedSizeOfMembers_cases (cap size : Nat) (members : List (String × Json)) :
    cappedSizeOfMembers cap size members = size + byteSizeOfMembers members ∨
      cap < cappedSizeOfMembers cap size members ∧ cap < size + byteSizeOfMembers members := by
  cases members with
  | nil => exact .inl rfl
  | cons member rest =>
      obtain ⟨name, j⟩ := member
      have hfirst := cappedSize_cases cap j
      have hrest := cappedSizeOfMembers_cases cap
        (size + (name.utf8ByteSize + j.cappedSize cap)) rest
      simp only [cappedSizeOfMembers, byteSizeOfMembers]
      split <;> omega

end

/-- A value passes a cap by the size that is charged just when it does by its exact size. -/
theorem cappedSize_le_iff {cap : Nat} {j : Json} : j.cappedSize cap ≤ cap ↔ j.byteSize ≤ cap := by
  have hcapped := cappedSize_cases cap j
  omega

/-- A value that is charged within a cap is charged the same under a greater cap. -/
theorem cappedSize_eq_of_le {cap greater : Nat} {j : Json} (hcap : cap ≤ greater)
    (hsize : j.cappedSize cap ≤ cap) : j.cappedSize greater = j.cappedSize cap := by
  have hcapped := cappedSize_cases cap j
  have hgreater := cappedSize_cases greater j
  omega

end SlideDeck.Json
