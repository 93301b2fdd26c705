import SlideDeck.Text.Blank

/-! # Pieces of a text -/

namespace SlideDeck.Text

theorem splitOn_ne_nil (sep : Char) (cs : List Char) : splitOn sep cs ≠ [] := by
  cases cs with
  | nil => exact List.cons_ne_nil _ _
  | cons c rest =>
      unfold splitOn
      split
      next => exact List.cons_ne_nil _ _
      next => split <;> exact List.cons_ne_nil _ _

/-- A text in one piece is that piece. -/
theorem eq_of_splitOn_eq_singleton {sep : Char} {cs piece : List Char}
    (h : splitOn sep cs = [piece]) : cs = piece := by
  induction cs generalizing piece with
  | nil => exact (List.cons.inj h).1
  | cons c rest ih =>
      unfold splitOn at h
      split at h
      next => exact absurd (List.cons.inj h).2 (splitOn_ne_nil sep rest)
      next =>
        split at h
        next hnil => exact absurd hnil (splitOn_ne_nil sep rest)
        next first others hsplit =>
          obtain ⟨hfirst, hothers⟩ := List.cons.inj h
          subst hothers
          rw [← hfirst, ← ih hsplit]

/-- Pieces as the library makes them. -/
theorem splitOn_eq (sep : Char) (cs : List Char) : splitOn sep cs = cs.splitOn sep := by
  induction cs with
  | nil => rw [splitOn, List.splitOn_nil]
  | cons c rest ih =>
      rw [List.splitOn_cons_eq_if_modifyHead, ← ih, splitOn]
      by_cases hsep : c = sep
      · rw [if_pos hsep, if_pos (beq_iff_eq.mpr hsep)]
      · rw [if_neg hsep, if_neg (mt beq_iff_eq.mp hsep)]
        cases hpieces : splitOn sep rest with
        | nil => exact absurd hpieces (splitOn_ne_nil sep rest)
        | cons piece others => rfl

/-- A piece holds no character that the text is cut at. -/
theorem eq_false_of_mem_splitOnP {p : Char → Bool} {cs piece : List Char} {c : Char}
    (h : piece ∈ cs.splitOnP p) (hc : c ∈ piece) : p c = false := by
  induction cs generalizing piece with
  | nil => simp_all
  | cons d rest ih =>
      rw [List.splitOnP_cons_eq_if_modifyHead] at h
      split at h
      next =>
        rcases List.mem_cons.mp h with rfl | h
        · cases hc
        · exact ih h hc
      next hd =>
        obtain ⟨first, others, hsplit⟩ :=
          List.exists_cons_of_ne_nil (List.splitOnP_ne_nil p rest)
        rw [hsplit, List.modifyHead_cons] at h
        rw [hsplit] at ih
        rcases List.mem_cons.mp h with rfl | h
        · rcases List.mem_cons.mp hc with rfl | hc
          · exact eq_false_of_ne_true hd
          · exact ih List.mem_cons_self hc
        · exact ih (List.mem_cons_of_mem _ h) hc

theorem not_mem_of_mem_splitOn {sep : Char} {cs piece : List Char}
    (h : piece ∈ cs.splitOn sep) : sep ∉ piece := by
  rw [List.splitOn_eq_splitOnP] at h
  intro hsep
  simpa using eq_false_of_mem_splitOnP h hsep

/-- Pieces without the separator come back from the text that joins them. -/
theorem splitOn_intercalate {sep : Char} {pieces : List (List Char)}
    (hpieces : ∀ piece ∈ pieces, sep ∉ piece) (hnonempty : pieces ≠ []) :
    splitOn sep ([sep].intercalate pieces) = pieces := by
  rw [splitOn_eq]
  exact List.splitOn_intercalate sep hpieces hnonempty

/-- A character of a joined text is the separator or stands in one of the pieces. -/
theorem mem_intercalate {sep c : Char} {pieces : List (List Char)}
    (h : c ∈ [sep].intercalate pieces) : c = sep ∨ ∃ piece ∈ pieces, c ∈ piece := by
  induction pieces with
  | nil => cases h
  | cons piece rest ih =>
      cases rest with
      | nil => exact .inr ⟨piece, List.mem_cons_self, by simpa using h⟩
      | cons next others =>
          rw [List.intercalate_cons_cons] at h
          rcases List.mem_append.mp h with h | h
          · rcases List.mem_append.mp h with h | h
            · exact .inr ⟨piece, List.mem_cons_self, h⟩
            · exact .inl (List.mem_singleton.mp h)
          · exact (ih h).imp_right fun ⟨other, hother, hc⟩ =>
              ⟨other, List.mem_cons_of_mem _ hother, hc⟩

section First

variable {sep : Char} {front : List Char}

theorem splitFirst_append (h : sep ∉ front) (rest : List Char) :
    splitFirst sep (front ++ sep :: rest) = some (front, rest) := by
  induction front with
  | nil => exact if_pos rfl
  | cons c front ih =>
      obtain ⟨hc, hfront⟩ := not_or.mp (mt List.mem_cons.mpr h)
      rw [List.cons_append, splitFirst, if_neg (Ne.symm hc), ih hfront]
      rfl

theorem splitFirst_eq_none (h : sep ∉ front) : splitFirst sep front = none := by
  induction front with
  | nil => rfl
  | cons c front ih =>
      obtain ⟨hc, hfront⟩ := not_or.mp (mt List.mem_cons.mpr h)
      rw [splitFirst, if_neg (Ne.symm hc), ih hfront]
      rfl

/-- A text is cut at the first occurrence of a character. -/
theorem splitFirst_eq_some_iff {cs before after : List Char} :
    splitFirst sep cs = some (before, after) ↔ cs = before ++ sep :: after ∧ sep ∉ before := by
  constructor
  · intro h
    by_cases hsep : sep ∈ cs
    · obtain ⟨front, rest, rfl, hfront⟩ := List.eq_append_cons_of_mem hsep
      rw [splitFirst_append hfront] at h
      cases h
      exact ⟨rfl, hfront⟩
    · rw [splitFirst_eq_none hsep] at h
      cases h
  · rintro ⟨rfl, hbefore⟩
    exact splitFirst_append hbefore after

theorem splitFirst_eq_none_iff {cs : List Char} : splitFirst sep cs = none ↔ sep ∉ cs := by
  refine ⟨fun h hsep => ?_, splitFirst_eq_none⟩
  obtain ⟨front, rest, rfl, hfront⟩ := List.eq_append_cons_of_mem hsep
  rw [splitFirst_append hfront] at h
  cases h

theorem eq_append_of_splitFirstOn {pattern text before after : List Char}
    (h : splitFirstOn pattern text = some (before, after)) :
    text = before ++ pattern ++ after := by
  induction text generalizing before with
  | nil =>
      rw [splitFirstOn] at h
      split at h
      next hempty =>
        cases h
        rw [List.isEmpty_iff.mp hempty]
        rfl
      next => cases h
  | cons c rest ih =>
      rw [splitFirstOn] at h
      split at h
      next hfront =>
        cases h
        obtain ⟨more, hmore⟩ := List.isPrefixOf_iff_prefix.mp hfront
        rw [← hmore, List.drop_left]
        rfl
      next =>
        obtain ⟨⟨front, _⟩, hrest, heq⟩ := Option.map_eq_some_iff.mp h
        cases heq
        rw [ih hrest]
        rfl

/-- A text is cut at a pattern that has a character which is not found in front of it. -/
theorem splitFirstOn_append {lead tail : List Char} (hlead : sep ∉ lead) (hfront : sep ∉ front)
    (rest : List Char) :
    splitFirstOn (lead ++ sep :: tail) (front ++ (lead ++ sep :: tail) ++ rest) =
      some (front, rest) := by
  have hbegins : ∀ more : List Char,
      (lead ++ sep :: tail).isPrefixOf (lead ++ sep :: tail ++ more) = true := fun more =>
    List.isPrefixOf_iff_prefix.mpr (List.prefix_append _ more)
  induction front with
  | nil =>
      rw [List.nil_append]
      cases lead with
      | nil =>
          rw [List.nil_append, List.cons_append, splitFirstOn]
          exact (if_pos (hbegins rest)).trans (by simp)
      | cons c lead =>
          rw [List.cons_append, List.cons_append, splitFirstOn]
          exact (if_pos (hbegins rest)).trans (by simp)
  | cons c front ih =>
      have hearlier : ¬ (lead ++ sep :: tail).isPrefixOf
          (c :: (front ++ (lead ++ sep :: tail) ++ rest)) = true := by
        intro h
        obtain ⟨more, hmore⟩ := List.isPrefixOf_iff_prefix.mp h
        -- the first such character would stand at two places
        have hshort := splitFirst_append hlead (tail ++ more)
        have hlong : splitFirst sep ((c :: front ++ lead) ++ sep :: (tail ++ rest)) =
            some (c :: front ++ lead, tail ++ rest) :=
          splitFirst_append (by simp_all) _
        have hsame : lead ++ sep :: (tail ++ more) =
            (c :: front ++ lead) ++ sep :: (tail ++ rest) := by
          simpa using hmore
        rw [hsame, hlong] at hshort
        have hlength := congrArg (fun parts => (parts.map (·.1.length)).getD 0) hshort
        simp only [Option.map_some, Option.getD_some, List.length_append,
          List.length_cons] at hlength
        omega
      rw [List.cons_append, List.cons_append, splitFirstOn, if_neg hearlier,
        ih (fun h => hfront (List.mem_cons_of_mem _ h))]
      rfl

end First

end SlideDeck.Text
