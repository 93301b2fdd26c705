import Mathlib.Data.List.Chain
import Mathlib.Data.List.Forall2
import SlideDeck.Pdf.Wrapping
import SlideDeck.Proofs.Text.Pieces
import SlideDeck.Proofs.Text.Words

/-!
# Lines of a wrapped text

A paragraph is filled into lines greedily: a line ends only where its next word does not fit any
more. The lines of a text are those of its paragraphs, and there is one such way to break them.
-/

namespace SlideDeck.Pdf

open Text (blankSeparated IsWord)

variable {budget : Nat}

/-! ## Words in lines -/

/-- Words are filled into lines of some words each: a line of several words fits, and the first
word of the next line would not have fitted behind it. -/
structure Fills (budget : Nat) (words : List (List Char)) (lines : List (List (List Char))) :
    Prop where
  flatten : lines.flatten = words
  nonempty : ∀ line ∈ lines, line ≠ []
  fits : ∀ line ∈ lines, (Text.spaced line).length ≤ budget ∨ ∃ word, line = [word]
  full : lines.IsChain fun line next =>
    ∃ word ∈ next.head?, budget < (Text.spaced line).length + 1 + word.length

theorem spaced_ne_nil {words : List (List Char)} (hwords : words ≠ [])
    (h : ∀ word ∈ words, IsWord word) : Text.spaced words ≠ [] := by
  intro hempty
  apply hwords
  rw [← Text.blankSeparated_spaced h, hempty]
  rfl

theorem fillLines_cons {line : List Char} (hline : line ≠ []) (word : List Char)
    (rest : List (List Char)) :
    fillLines budget line (word :: rest) =
      if budget < line.length + 1 + word.length then line :: fillLines budget word rest
      else fillLines budget (line ++ ' ' :: word) rest := by
  rw [fillLines, if_neg (by simpa using hline)]

section Opened

variable {opened words : List (List Char)}

/-- The words of the line that is open and those behind it are filled into lines, the first of
which begins with the words of the open one. -/
theorem exists_fills (hopened : opened ≠ []) (hwords : ∀ word ∈ opened ++ words, IsWord word)
    (hfits : (Text.spaced opened).length ≤ budget ∨ ∃ word, opened = [word]) :
    ∃ first rest, fillLines budget (Text.spaced opened) words = (first :: rest).map Text.spaced ∧
      Fills budget (opened ++ words) (first :: rest) ∧ opened <+: first := by
  induction words generalizing opened with
  | nil =>
      exact ⟨opened, [], rfl, ⟨by simp, by simpa using hopened, by simpa using hfits, .singleton _⟩,
        List.prefix_rfl⟩
  | cons word more ih =>
      have hline := spaced_ne_nil hopened fun w hw => hwords w (List.mem_append_left _ hw)
      rw [fillLines_cons hline]
      split
      next hfull =>
        have hmore : ∀ w ∈ [word] ++ more, IsWord w := fun w hw =>
          hwords w (List.mem_append_right _ hw)
        obtain ⟨first, rest, hlines, hfill, hfirst⟩ :=
          ih (List.cons_ne_nil word []) hmore (.inr ⟨word, rfl⟩)
        rw [Text.spaced_singleton] at hlines
        refine ⟨opened, first :: rest, by rw [hlines]; rfl, ?_, List.prefix_rfl⟩
        obtain ⟨tail, rfl⟩ := hfirst
        refine ⟨?_, ?_, ?_, .cons_cons ⟨word, by simp, hfull⟩ hfill.full⟩
        · rw [List.flatten_cons, hfill.flatten]
          rfl
        · exact List.forall_mem_cons.mpr ⟨hopened, hfill.nonempty⟩
        · exact List.forall_mem_cons.mpr ⟨hfits, hfill.fits⟩
      next hroom =>
        rw [← Text.spaced_concat hopened, List.append_cons opened word more]
        rw [List.append_cons] at hwords
        obtain ⟨first, rest, hlines, hfill, hfirst⟩ :=
          ih (by simp) hwords (.inl (by rw [Text.spaced_concat hopened]; simp; omega))
        exact ⟨first, rest, hlines, hfill, (List.prefix_append _ _).trans hfirst⟩

/-- There is one way to fill words into lines. -/
theorem Fills.fillLines_eq {first : List (List Char)} {rest : List (List (List Char))}
    (h : Fills budget (opened ++ words) (first :: rest)) (hopened : opened ≠ [])
    (hwords : ∀ word ∈ opened ++ words, IsWord word) (hfirst : opened <+: first) :
    fillLines budget (Text.spaced opened) words = (first :: rest).map Text.spaced := by
  induction words generalizing opened first rest with
  | nil =>
      obtain ⟨tail, rfl⟩ := hfirst
      have hflatten := h.flatten
      rw [List.flatten_cons, List.append_assoc, List.append_cancel_left_eq,
        List.append_eq_nil_iff] at hflatten
      obtain ⟨rfl, hrest⟩ := hflatten
      cases rest with
      | nil => simp [fillLines]
      | cons next others =>
          have hnext := h.nonempty next (by simp)
          simp [hnext] at hrest
  | cons word more ih =>
      have hline := spaced_ne_nil hopened fun w hw => hwords w (List.mem_append_left _ hw)
      rw [fillLines_cons hline]
      obtain ⟨tail, rfl⟩ := hfirst
      have hflatten := h.flatten
      rw [List.flatten_cons, List.append_assoc, List.append_cancel_left_eq] at hflatten
      cases tail with
      | nil =>
          -- the open line is complete, and the next one begins with the next word
          rw [List.nil_append] at hflatten
          obtain ⟨next, others, rfl⟩ : ∃ next others, rest = next :: others :=
            List.exists_cons_of_ne_nil (by rintro rfl; simp at hflatten)
          obtain ⟨w, tail, rfl⟩ := List.exists_cons_of_ne_nil (h.nonempty next (by simp))
          obtain ⟨rfl, hmore⟩ := List.cons.inj hflatten
          obtain ⟨⟨w', hw', hfull⟩, hchain⟩ := List.isChain_cons_cons.mp h.full
          obtain rfl : w = w' := by simpa using hw'
          rw [List.append_nil] at hfull
          rw [if_pos hfull]
          have hrest : Fills budget ([w] ++ more) ((w :: tail) :: others) :=
            ⟨hflatten, fun l hl => h.nonempty l (List.mem_cons_of_mem _ hl),
              fun l hl => h.fits l (List.mem_cons_of_mem _ hl), hchain⟩
          have hlines := ih hrest (by simp)
            (fun v hv => hwords v (List.mem_append_right _ hv)) ⟨tail, rfl⟩
          rw [Text.spaced_singleton] at hlines
          rw [hlines]
          simp
      | cons w tail =>
          -- the open line goes on with the next word
          obtain ⟨rfl, hmore⟩ := List.cons.inj hflatten
          have hgrown : opened ++ [w] <+: opened ++ w :: tail := ⟨tail, by simp⟩
          have hroom : ¬ budget < (Text.spaced opened).length + 1 + w.length := by
            rcases h.fits _ List.mem_cons_self with hfits | ⟨word, hone⟩
            · have hle := (Text.spaced_prefix hgrown).length_le
              rw [Text.spaced_concat hopened, List.length_append, List.length_cons] at hle
              omega
            · exact absurd (congrArg List.length hone) (by
                have := List.length_pos_of_ne_nil hopened
                simp
                omega)
          rw [if_neg hroom, ← Text.spaced_concat hopened]
          rw [List.append_cons] at h hwords
          exact ih h (by simp) hwords hgrown

end Opened

/-! ## Paragraphs -/

/-- The lines of a paragraph. Their words are those of the paragraph, in their order, with
single blanks between them. A paragraph without words has one empty line, any other has words on
every line. No line is longer than the budget, unless it is one word, and no line ends where the
next word would have fitted behind it. -/
structure WrapsTo (budget : Nat) (paragraph : List Char) (lines : List (List Char)) : Prop where
  words : lines.flatMap blankSeparated = blankSeparated paragraph
  spaced : ∀ line ∈ lines, line = Text.spaced (blankSeparated line)
  blank : if blankSeparated paragraph = [] then lines = [[]]
    else lines ≠ [] ∧ ∀ line ∈ lines, line ≠ []
  fits : ∀ line ∈ lines, line.length ≤ budget ∨ IsWord line
  full : lines.IsChain fun line next =>
    ∃ word ∈ (blankSeparated next).head?, budget < line.length + 1 + word.length

theorem wrapParagraph_eq (budget : Nat) (paragraph : List Char) :
    wrapParagraph budget paragraph = fillLines budget [] (blankSeparated paragraph) := by
  rw [wrapParagraph, Text.wordsOf_eq]

/-- Lines of a paragraph with words, by the words on each of them. -/
theorem wrapsTo_iff_fills {paragraph : List Char} {lines : List (List Char)}
    (hwords : blankSeparated paragraph ≠ []) :
    WrapsTo budget paragraph lines ↔
      ∃ parts, lines = parts.map Text.spaced ∧ Fills budget (blankSeparated paragraph) parts := by
  constructor
  · intro h
    obtain ⟨_, hfilled⟩ := by simpa [hwords] using h.blank
    refine ⟨lines.map blankSeparated, ?_, ?_, ?_, ?_, ?_⟩
    · rw [List.map_map]
      exact (List.map_congr_left h.spaced).symm.trans (List.map_id _) |>.symm
    · rw [← List.flatMap_def, h.words]
    · rw [List.forall_mem_map]
      intro line hline hempty
      apply hfilled line hline
      rw [h.spaced line hline, hempty, Text.spaced_nil]
    · rw [List.forall_mem_map]
      intro line hline
      rw [← h.spaced line hline]
      exact (h.fits line hline).imp_right fun hword => ⟨line, hword.blankSeparated_eq⟩
    · rw [List.isChain_map]
      refine h.full.imp_of_mem_imp fun line next hline _ hfull => ?_
      rwa [← h.spaced line hline]
  · rintro ⟨parts, rfl, h⟩
    have hisWord : ∀ part ∈ parts, ∀ word ∈ part, IsWord word := fun part hpart word hword =>
      Text.isWord_of_mem_blankSeparated (h.flatten ▸ List.mem_flatten.mpr ⟨part, hpart, hword⟩)
    have hback : ∀ part ∈ parts, blankSeparated (Text.spaced part) = part := fun part hpart =>
      Text.blankSeparated_spaced (hisWord part hpart)
    refine ⟨?_, ?_, ?_, ?_, ?_⟩
    · rw [List.flatMap_map, ← h.flatten, List.flatMap_def, List.map_congr_left hback, List.map_id']
    · rw [List.forall_mem_map]
      intro part hpart
      rw [hback part hpart]
    · rw [if_neg hwords, List.forall_mem_map]
      refine ⟨?_, fun part hpart => spaced_ne_nil (h.nonempty part hpart) (hisWord part hpart)⟩
      rintro hnone
      rw [← h.flatten, List.map_eq_nil_iff.mp hnone] at hwords
      exact hwords rfl
    · rw [List.forall_mem_map]
      intro part hpart
      refine (h.fits part hpart).imp_right ?_
      rintro ⟨word, rfl⟩
      rw [Text.spaced_singleton]
      exact hisWord _ hpart word List.mem_cons_self
    · rw [List.isChain_map]
      refine h.full.imp_of_mem_imp fun part next _ hnext hfull => ?_
      rwa [hback next hnext]

/-- A paragraph is broken into lines in one way. -/
theorem wrapParagraph_eq_iff {paragraph : List Char} {lines : List (List Char)} :
    wrapParagraph budget paragraph = lines ↔ WrapsTo budget paragraph lines := by
  rw [wrapParagraph_eq]
  by_cases hwords : blankSeparated paragraph = []
  · rw [hwords]
    constructor
    · rintro rfl
      exact ⟨by simp [fillLines, hwords], by simp [fillLines], by simp [fillLines, hwords],
        by simp [fillLines], .singleton _⟩
    · intro h
      have hblank := h.blank
      rw [if_pos hwords] at hblank
      rw [hblank]
      rfl
  · rw [wrapsTo_iff_fills hwords]
    have hisWord : ∀ word ∈ blankSeparated paragraph, IsWord word := fun _ =>
      Text.isWord_of_mem_blankSeparated
    obtain ⟨word, rest, hcons⟩ := List.exists_cons_of_ne_nil hwords
    have hfirst : fillLines budget [] (word :: rest) =
        fillLines budget (Text.spaced [word]) rest := by
      rw [Text.spaced_singleton]
      rfl
    rw [hcons] at hisWord ⊢
    rw [hfirst]
    constructor
    · rintro rfl
      obtain ⟨first, others, hlines, hfill, _⟩ :=
        exists_fills (List.cons_ne_nil word []) hisWord (.inr ⟨word, rfl⟩)
      exact ⟨_, hlines, hfill⟩
    · rintro ⟨parts, rfl, hfill⟩
      obtain ⟨first, others, rfl⟩ : ∃ first others, parts = first :: others :=
        List.exists_cons_of_ne_nil (by rintro rfl; exact absurd hfill.flatten (by simp))
      obtain ⟨w, tail, rfl⟩ := List.exists_cons_of_ne_nil (hfill.nonempty first List.mem_cons_self)
      obtain ⟨rfl, _⟩ := List.cons.inj hfill.flatten
      have hfill : Fills budget ([w] ++ rest) ((w :: tail) :: others) := hfill
      exact hfill.fillLines_eq (List.cons_ne_nil w []) hisWord ⟨tail, rfl⟩

theorem one_le_lineBudget (width advance : Float) : 1 ≤ lineBudget width advance := by
  unfold lineBudget
  split
  next => exact le_max_left _ _
  next => decide

/-! ## Texts -/

/-- The lines of a text are those of its paragraphs, one paragraph after the other. There is room
for at least one character in a line, however narrow it is. -/
theorem wrap_eq_iff (text : String) (lines : List String) :
    (∀ width advance, 1 ≤ lineBudget width advance) ∧
      ∀ budget, wrap budget text = lines ↔ ∃ parts : List (List (List Char)),
        lines.map String.toList = parts.flatten ∧
        List.Forall₂ (WrapsTo budget) (text.toList.splitOn '\n') parts := by
  refine ⟨one_le_lineBudget, fun budget => ?_⟩
  have hwraps : WrapsTo budget = fun paragraph lines => wrapParagraph budget paragraph = lines :=
    funext fun _ => funext fun _ => propext wrapParagraph_eq_iff.symm
  simp only [hwraps, ← List.forall₂_map_left_iff, List.forall₂_eq_eq_eq, exists_eq_right']
  rw [wrap, Text.splitOn_eq, List.flatMap_def]
  constructor
  · rintro rfl
    rw [List.map_map]
    exact (List.map_congr_left fun line _ => String.toList_ofList).trans (List.map_id _)
  · intro h
    rw [← h, List.map_map]
    exact (List.map_congr_left fun line _ => String.ofList_toList).trans (List.map_id _)

-- a line that just fits, a word that is too long, and a paragraph without words
example : wrap 7 "one two notwithstanding\n \nfour" =
    ["one two", "notwithstanding", "", "four"] := by
  decide +kernel

end SlideDeck.Pdf
