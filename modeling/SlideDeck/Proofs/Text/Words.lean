import SlideDeck.Proofs.Text.Pieces

/-!
# Words of a text

The words are the pieces between blanks that are not empty. Words that are joined by blanks come
back as they were.
-/

namespace SlideDeck.Text

/-- The pieces between the blanks of a text that are not empty. -/
def blankSeparated (cs : List Char) : List (List Char) :=
  (cs.splitOnP isBlank).filter (!·.isEmpty)

@[simp]
theorem blankSeparated_nil : blankSeparated [] = [] := rfl

/-- A text is cut at each of its blanks. -/
theorem blankSeparated_append_blank {c : Char} (hc : isBlank c = true) (front back : List Char) :
    blankSeparated (front ++ c :: back) = blankSeparated front ++ blankSeparated back := by
  unfold blankSeparated
  rw [List.splitOnP_append_cons front back hc, List.filter_append]

theorem blankSeparated_of_forall {word : List Char} (hword : word ≠ [])
    (h : ∀ c ∈ word, isBlank c = false) : blankSeparated word = [word] := by
  unfold blankSeparated
  rw [List.splitOnP_eq_singleton h]
  simp [hword]

theorem wordsOf_go_eq (cs word : List Char) (hword : ∀ c ∈ word, isBlank c = false) :
    wordsOf.go cs word = blankSeparated (word.reverse ++ cs) := by
  induction cs generalizing word with
  | nil =>
      rw [wordsOf.go.eq_def, List.append_nil]
      cases word with
      | nil => rfl
      | cons c more =>
          rw [blankSeparated_of_forall (by simp) (by simpa [or_comm] using hword)]
  | cons c rest ih =>
      rw [wordsOf.go.eq_def]
      dsimp only
      split
      next hc =>
        have hrest : wordsOf.go rest [] = blankSeparated rest := ih [] (by simp)
        rw [blankSeparated_append_blank hc]
        cases word with
        | nil => simpa using hrest
        | cons d more =>
            rw [blankSeparated_of_forall (by simp) (by simpa [or_comm] using hword), hrest]
            rfl
      next hc =>
        rw [ih (c :: word)]
        · simp
        · exact List.forall_mem_cons.mpr ⟨eq_false_of_ne_true hc, hword⟩

theorem wordsOf_eq (cs : List Char) : wordsOf cs = blankSeparated cs :=
  wordsOf_go_eq cs [] (by simp)

/-- A word has characters, and none of them is a blank. -/
def IsWord (word : List Char) : Prop := word ≠ [] ∧ ∀ c ∈ word, isBlank c = false

theorem IsWord.blankSeparated_eq {word : List Char} (h : IsWord word) :
    blankSeparated word = [word] :=
  blankSeparated_of_forall h.1 h.2

theorem isWord_of_mem_blankSeparated {cs word : List Char} (h : word ∈ blankSeparated cs) :
    IsWord word := by
  obtain ⟨hpiece, hword⟩ := List.mem_filter.mp h
  exact ⟨by simpa using hword, fun _ => eq_false_of_mem_splitOnP hpiece⟩

/-- Words with single blanks between them. -/
def spaced (words : List (List Char)) : List Char := [' '].intercalate words

@[simp]
theorem spaced_nil : spaced [] = [] := rfl

@[simp]
theorem spaced_singleton (word : List Char) : spaced [word] = word := by
  simp [spaced]

theorem spaced_cons_cons (word next : List Char) (rest : List (List Char)) :
    spaced (word :: next :: rest) = word ++ ' ' :: spaced (next :: rest) := by
  simp [spaced, List.intercalate_cons_cons]

theorem spaced_concat {words : List (List Char)} (hwords : words ≠ []) (word : List Char) :
    spaced (words ++ [word]) = spaced words ++ ' ' :: word := by
  induction words with
  | nil => exact absurd rfl hwords
  | cons first rest ih =>
      cases rest with
      | nil => simp [spaced_cons_cons]
      | cons next more =>
          have hmore := ih (List.cons_ne_nil next more)
          rw [List.cons_append] at hmore
          rw [List.cons_append, List.cons_append, spaced_cons_cons, hmore, spaced_cons_cons,
            List.append_assoc, List.cons_append]

theorem spaced_prefix {front words : List (List Char)} (h : front <+: words) :
    spaced front <+: spaced words := by
  obtain ⟨back, rfl⟩ := h
  induction front with
  | nil => exact List.nil_prefix
  | cons word rest ih =>
      cases rest with
      | nil =>
          cases back with
          | nil => exact List.prefix_rfl
          | cons next more =>
              rw [List.singleton_append, spaced_cons_cons, spaced_singleton]
              exact List.prefix_append _ _
      | cons next more =>
          rw [List.cons_append] at ih
          rw [List.cons_append, List.cons_append, spaced_cons_cons, spaced_cons_cons,
            List.prefix_append_right_inj, List.cons_prefix_cons]
          exact ⟨rfl, ih⟩

/-- Words come back from the text that they are joined to. -/
theorem blankSeparated_spaced {words : List (List Char)} (h : ∀ word ∈ words, IsWord word) :
    blankSeparated (spaced words) = words := by
  induction words with
  | nil => rfl
  | cons word rest ih =>
      obtain ⟨hword, hrest⟩ := List.forall_mem_cons.mp h
      cases rest with
      | nil => rw [spaced_singleton, hword.blankSeparated_eq]
      | cons next more =>
          rw [spaced_cons_cons, blankSeparated_append_blank (by decide), ih hrest,
            hword.blankSeparated_eq]
          rfl

end SlideDeck.Text
