import Mathlib.Data.List.Forall2
import SlideDeck.Content.Reply
import SlideDeck.Proofs.Content.Lines
import SlideDeck.Proofs.Text.Pieces

/-!
# What an outline is read as

Every line behind the first one is a heading or stands under one. The sections keep all of
these lines, each in its place: the headings are their titles, the others their contents,
and bullets are items as well.
-/

namespace SlideDeck.Outline

open Text (isBlank trimChars)

/-! ## Lines of a text -/

/-- A line that counts: it has no outer blanks and is not empty. -/
structure IsLine (line : List Char) : Prop where
  nonempty : line ≠ []
  trimmed : trimChars line = line
  single : '\n' ∉ line

theorem isLine_of_mem_linesOf {text : String} {line : List Char} (h : line ∈ linesOf text) :
    IsLine line := by
  obtain ⟨hmem, hnonempty⟩ := List.mem_filter.mp h
  obtain ⟨piece, hpiece, rfl⟩ := List.mem_map.mp hmem
  rw [Text.splitOn_eq] at hpiece
  refine ⟨by simpa using hnonempty, Text.trimChars_trimChars piece, fun hnewline => ?_⟩
  exact Text.not_mem_of_mem_splitOn hpiece ((Text.isInfix_trimChars piece).mem hnewline)

theorem linesOf_eq_nil_iff (text : String) :
    linesOf text = [] ↔ ∀ line ∈ text.toList.splitOn '\n', ∀ c ∈ line, isBlank c = true := by
  rw [linesOf, Text.splitOn_eq, List.filter_eq_nil_iff, List.forall_mem_map]
  refine forall₂_congr fun line _ => ?_
  rw [← Text.trimChars_eq_nil_iff]
  simp

/-! ## Texts of lines -/

/-- A text that fills one line of a content. -/
def FillsLine (text : String) : Prop := text ≠ "" ∧ '\n' ∉ text.toList

variable {line text title : List Char}

theorem IsLine.fillsLine (h : IsLine line) : FillsLine (String.ofList line) := by
  refine ⟨fun hempty => h.nonempty ?_, ?_⟩
  · simpa using congrArg String.toList hempty
  · rw [String.toList_ofList]
    exact h.single

theorem IsLine.fillsLine_trimChars (h : IsLine line) {part : List Char} (hpart : part <:+: line)
    (hnonempty : trimChars part ≠ []) : FillsLine (String.ofList (trimChars part)) :=
  (IsLine.mk hnonempty (Text.trimChars_trimChars part) fun hnewline =>
    h.single (hpart.mem ((Text.isInfix_trimChars part).mem hnewline))).fillsLine

theorem MarkedBy.fillsLine {marker : List Char → Prop} (hline : IsLine line)
    (h : MarkedBy marker line text) : FillsLine (String.ofList text) := by
  obtain ⟨mark, gap, body, rfl, -, -, -, hbody, rfl⟩ := h
  apply hline.fillsLine_trimChars (List.suffix_append (mark ++ gap) body).isInfix
  exact mt Text.trimChars_eq_nil_iff.mp (Text.not_forall_isBlank_of_trimmed hline.trimmed hbody)

theorem Heads.fillsLine (hline : IsLine line) (h : Heads line title) :
    FillsLine (String.ofList title) := by
  cases h with
  | marked hmarked => exact hmarked.fillsLine hline
  | colon hform hfront =>
      exact hline.fillsLine_trimChars (hform ▸ (List.prefix_append _ _).isInfix) hfront

theorem Reads.fillsLine {l : Line} (hline : IsLine line) (h : Reads line l) :
    FillsLine l.text := by
  cases h with
  | heading hheads => exact hheads.fillsLine hline
  | item _ hbullet => exact hbullet.fillsLine hline
  | plain => exact hline.fillsLine

/-! ## The title of an outline -/

/-- The first line gives the title, without number signs if it has any. -/
inductive Titled (line : List Char) : List Char → Prop
  | marked {title : List Char} : MarkedBy NumberSigns line title → Titled line title
  | plain (hsigns : ∀ text, ¬ MarkedBy NumberSigns line text) : Titled line line

theorem titled_titleOf (hline : trimChars line = line) : Titled line (titleOf line) := by
  unfold titleOf
  cases hmarked : marked? line with
  | none =>
      rw [Option.getD_none, hline]
      exact .plain ((marked?_eq_none_iff hline).mp hmarked)
  | some title => exact .marked ((marked?_eq_some_iff hline).mp hmarked)

theorem Titled.fillsLine (hline : IsLine line) (h : Titled line title) :
    FillsLine (String.ofList title) := by
  cases h with
  | marked hmarked => exact hmarked.fillsLine hline
  | plain => exact hline.fillsLine

/-! ## Lines under headings -/

/-- The title of the section that a line opens. -/
def Line.opens? : Line → Option String
  | .heading title => some title
  | _ => none

theorem Line.eq_heading_or (l : Line) : (∃ title, l = .heading title) ∨ l.opens? = none := by
  cases l with
  | heading title => exact .inl ⟨title, rfl⟩
  | item => exact .inr rfl
  | plain => exact .inr rfl

/-- Lines that are divided at the headings: each heading with the lines under it, none of
which is a heading. -/
inductive IsDivided : List Line → List (String × List Line) → Prop
  | nil : IsDivided [] []
  | cons {title : String} {body lines : List Line} {parts : List (String × List Line)}
      (hbody : ∀ l ∈ body, l.opens? = none) (hrest : IsDivided lines parts) :
      IsDivided (.heading title :: (body ++ lines)) ((title, body) :: parts)

namespace IsDivided

variable {lines : List Line} {parts : List (String × List Line)}

/-- The titles are the headings. -/
theorem titles_eq (h : IsDivided lines parts) :
    parts.map Prod.fst = lines.filterMap Line.opens? := by
  induction h with
  | nil => rfl
  | @cons title body lines parts hbody _ ih =>
      calc title :: parts.map Prod.fst
          = title :: (body.filterMap Line.opens? ++ lines.filterMap Line.opens?) := by
            rw [List.filterMap_eq_nil_iff.mpr hbody, List.nil_append, ih]
        _ = title :: (body ++ lines).filterMap Line.opens? := by rw [List.filterMap_append]

/-- The bodies are the lines that are no headings. -/
theorem bodies_eq (h : IsDivided lines parts) :
    parts.flatMap Prod.snd = lines.filter fun l => l.opens?.isNone := by
  induction h with
  | nil => rfl
  | cons hbody _ ih =>
      rw [List.filter_cons_of_neg (by simp [Line.opens?]), List.filter_append, ← ih,
        List.filter_eq_self.mpr fun l hl => Option.isNone_iff_eq_none.mpr (hbody l hl)]
      rfl

end IsDivided

/-! ## Sections -/

theorem sectionsFrom_cons {l : Line} (h : l.opens? = none) (title : String)
    (opened rest : List Line) :
    sectionsFrom title opened (l :: rest) = sectionsFrom title (l :: opened) rest := by
  cases l with
  | heading => cases h
  | item => rfl
  | plain => rfl

/-- The section that is open takes the lines up to the next heading. -/
theorem exists_sectionsFrom (title : String) (opened lines : List Line)
    (hopened : ∀ l ∈ opened, l.opens? = none) :
    ∃ parts, IsDivided (.heading title :: (opened.reverse ++ lines)) parts ∧
      sectionsFrom title opened lines = parts.map fun part => sectionOf part.1 part.2 := by
  have hbody : ∀ l ∈ opened.reverse, l.opens? = none := fun l hl =>
    hopened l (List.mem_reverse.mp hl)
  induction lines generalizing title opened with
  | nil => exact ⟨[(title, opened.reverse)], .cons hbody .nil, rfl⟩
  | cons line rest ih =>
      rcases line.eq_heading_or with ⟨next, rfl⟩ | hline
      · obtain ⟨parts, hparts, hsections⟩ :=
          ih next [] (List.forall_mem_nil _) (List.forall_mem_nil _)
        refine ⟨(title, opened.reverse) :: parts, .cons hbody hparts, ?_⟩
        rw [sectionsFrom, hsections, List.map_cons]
      · have hmore : ∀ l ∈ line :: opened, l.opens? = none :=
          List.forall_mem_cons.mpr ⟨hline, hopened⟩
        obtain ⟨parts, hparts, hsections⟩ :=
          ih title (line :: opened) hmore fun l hl => hmore l (List.mem_reverse.mp hl)
        refine ⟨parts, ?_, (sectionsFrom_cons hline title opened rest).trans hsections⟩
        rwa [List.reverse_cons, List.append_assoc, List.singleton_append] at hparts

/-- The lines behind the title, with a heading over the first ones if there is none. Without
any, the title stands under that heading. -/
def underHeadings (title : String) : List Line → List Line
  | [] => [.heading overview, .plain title]
  | .heading first :: rest => .heading first :: rest
  | lines => .heading overview :: lines

section UnderHeadings

variable (title : String) (lines : List Line)

theorem exists_sections :
    ∃ parts, IsDivided (underHeadings title lines) parts ∧
      sections title lines = parts.map fun part => sectionOf part.1 part.2 := by
  cases lines with
  | nil =>
      have hbody : ∀ l ∈ [Line.plain title], l.opens? = none := List.forall_mem_singleton.mpr rfl
      exact ⟨[(overview, [.plain title])], .cons hbody .nil, rfl⟩
  | cons line rest =>
      have hopened := exists_sectionsFrom overview [] (line :: rest) (List.forall_mem_nil _)
      cases line with
      | heading first => exact exists_sectionsFrom first [] rest (List.forall_mem_nil _)
      | item => exact hopened
      | plain => exact hopened

theorem headings_underHeadings :
    (underHeadings title lines).filterMap Line.opens? =
      (if (lines.head?.bind Line.opens?).isSome then [] else [overview]) ++
        lines.filterMap Line.opens? := by
  cases lines with
  | nil => rfl
  | cons line rest => cases line <;> rfl

theorem others_underHeadings :
    ((underHeadings title lines).filter fun l => l.opens?.isNone) =
      if lines = [] then [.plain title] else lines.filter fun l => l.opens?.isNone := by
  cases lines with
  | nil => rfl
  | cons line rest => cases line <;> rfl

variable {title lines} in
theorem fillsLine_of_mem_underHeadings (htitle : FillsLine title)
    (hlines : ∀ l ∈ lines, FillsLine l.text) :
    ∀ l ∈ underHeadings title lines, FillsLine l.text := by
  have hoverview : FillsLine overview := ⟨by decide, by decide⟩
  cases lines with
  | nil =>
      exact List.forall_mem_cons.mpr ⟨hoverview, List.forall_mem_singleton.mpr htitle⟩
  | cons line rest =>
      cases line with
      | heading => exact hlines
      | item => exact List.forall_mem_cons.mpr ⟨hoverview, hlines⟩
      | plain => exact List.forall_mem_cons.mpr ⟨hoverview, hlines⟩

end UnderHeadings

/-! ## What a section keeps -/

/-- The lines of the content of a section; an empty content has none. -/
def contentLines (s : Section) : List String :=
  if s.content = "" then [] else (s.content.toList.splitOn '\n').map String.ofList

theorem contentLines_sectionOf (title : String) {body : List Line}
    (hbody : ∀ l ∈ body, FillsLine l.text) :
    contentLines (sectionOf title body) = body.map Line.text := by
  by_cases hnil : body = []
  · subst hnil
    rfl
  have hcontent : (sectionOf title body).content.toList =
      ['\n'].intercalate (body.map fun l => l.text.toList) := by
    rw [sectionOf, String.toList_intercalate, List.map_map]
    rfl
  have hsplit : (sectionOf title body).content.toList.splitOn '\n' =
      body.map fun l => l.text.toList := by
    rw [hcontent]
    refine List.splitOn_intercalate '\n' ?_ (mt List.map_eq_nil_iff.mp hnil)
    exact List.forall_mem_map.mpr fun l hl => (hbody l hl).2
  have hnonempty : (sectionOf title body).content ≠ "" := by
    intro hempty
    rw [hempty] at hsplit
    -- an empty content would be one empty line
    obtain ⟨line, rest, rfl⟩ := List.exists_cons_of_ne_nil hnil
    have hline := (List.cons.inj hsplit).1
    exact (hbody line List.mem_cons_self).1 (String.toList_inj.mp hline.symm)
  rw [contentLines, if_neg hnonempty, hsplit, List.map_map]
  exact List.map_congr_left fun l _ => String.ofList_toList

theorem sectionType_eq_data_iff (title : String) (dataPoints : Nat) :
    sectionType title dataPoints = .data ↔ 2 ≤ dataPoints := by
  by_cases htwo : 2 ≤ dataPoints
  · simp [sectionType, htwo]
  · simp only [sectionType, htwo, if_false, iff_false]
    split_ifs <;> decide

/-- A section of a title has all that the lines of its body say. It is one of data when two of
them state a metric. -/
structure Gathers (title : String) (body : List Line) (s : Section) : Prop where
  title : s.title = title
  lines : contentLines s = body.map Line.text
  items : s.items = body.filterMap Line.item?
  dataPoints : s.dataPoints = body.filterMap fun l => Metric.ofLine? l.text
  data : s.type = .data ↔ 2 ≤ body.countP fun l => (Metric.ofLine? l.text).isSome
  priority : s.priority = if s.type = .data then 4 else 3

theorem gathers_sectionOf (title : String) {body : List Line}
    (hbody : ∀ l ∈ body, FillsLine l.text) : Gathers title body (sectionOf title body) where
  title := rfl
  lines := contentLines_sectionOf title hbody
  items := rfl
  dataPoints := rfl
  data := by
    rw [← List.length_filterMap_eq_countP]
    exact sectionType_eq_data_iff _ _
  priority := rfl

/-! ## The whole outline -/

/-- What a content has of its first line and of what the lines behind it are. -/
structure Outlines (first : List Char) (lines : List Line) (c : Content) : Prop where
  title : Titled first c.title.toList
  /-- An overview comes before the headings when the first line is under none of them. -/
  titles : c.sections.map Section.title =
    (if (lines.head?.bind Line.opens?).isSome then [] else [overview]) ++
      lines.filterMap Line.opens?
  texts : c.sections.flatMap contentLines =
    if lines = [] then [c.title] else (lines.filter fun l => l.opens?.isNone).map Line.text
  /-- Every section has the lines between its heading and the next one. -/
  sections : ∃ parts, IsDivided (underHeadings c.title lines) parts ∧
    List.Forall₂ (fun part s => Gathers part.1 part.2 s) parts c.sections

theorem outlines_sections {first title : List Char} {lines : List Line}
    (htitle : Titled first title) (hfills : FillsLine (String.ofList title))
    (hlines : ∀ l ∈ lines, FillsLine l.text) :
    Outlines first lines ⟨.ofList title, sections (.ofList title) lines⟩ := by
  obtain ⟨parts, hparts, hsections⟩ := exists_sections (.ofList title) lines
  have hgathers : ∀ part ∈ parts, Gathers part.1 part.2 (sectionOf part.1 part.2) := by
    intro part hpart
    apply gathers_sectionOf
    intro l hl
    have hmem : l ∈ parts.flatMap Prod.snd := List.mem_flatMap.mpr ⟨part, hpart, hl⟩
    rw [hparts.bodies_eq] at hmem
    exact fillsLine_of_mem_underHeadings hfills hlines l (List.mem_of_mem_filter hmem)
  refine ⟨?_, ?_, ?_, parts, hparts, ?_⟩
  · rwa [String.toList_ofList]
  · calc (sections (.ofList title) lines).map Section.title
        = parts.map Prod.fst := by rw [hsections, List.map_map]; rfl
      _ = _ := by rw [hparts.titles_eq, headings_underHeadings]
  · calc (sections (.ofList title) lines).flatMap contentLines
        = parts.flatMap fun part => part.2.map Line.text := by
          rw [hsections, List.flatMap_map]
          exact List.flatMap_congr fun part hpart => (hgathers part hpart).lines
      _ = (parts.flatMap Prod.snd).map Line.text := List.map_flatMap.symm
      _ = _ := by
          rw [hparts.bodies_eq, others_underHeadings]
          split <;> rfl
  · rw [hsections, List.forall₂_map_right_iff, List.forall₂_same]
    exact hgathers

/-- Only a blank text is no outline. Of any other one, the first line gives the title, and the
sections keep the lines behind it: none is lost, is there twice or is in another section. -/
theorem parse_lines (text : String) :
    ((∃ e, parse text = .error e) ↔
      ∀ line ∈ text.toList.splitOn '\n', ∀ c ∈ line, isBlank c = true) ∧
    ∀ first rest, linesOf text = first :: rest →
      ∃ c lines, parse text = .ok c ∧ List.Forall₂ Reads rest lines ∧ Outlines first lines c := by
  constructor
  · rw [← linesOf_eq_nil_iff, parse, parse?]
    cases linesOf text <;> simp
  · intro first rest hlines
    have hline : ∀ line ∈ first :: rest, IsLine line := fun line hmem =>
      isLine_of_mem_linesOf (hlines ▸ hmem)
    obtain ⟨hfirst, hrest⟩ := List.forall_mem_cons.mp hline
    have hreads : ∀ line ∈ rest, Reads line (Line.of line) := fun line hmem =>
      (of_eq_iff (hrest line hmem).trimmed).mp rfl
    refine ⟨_, rest.map Line.of, by rw [parse, parse?, hlines], ?_, ?_⟩
    · rw [List.forall₂_map_right_iff, List.forall₂_same]
      exact hreads
    · have htitle := titled_titleOf hfirst.trimmed
      apply outlines_sections htitle (htitle.fillsLine hfirst)
      exact List.forall_mem_map.mpr fun line hmem => (hreads line hmem).fillsLine (hrest line hmem)

/-- An outline with a line in front of its only heading. -/
theorem parse_review_lines :
    linesOf "# Review\n\nOutlook\nGoals:\n- Grow 5%\n 2) Cut 3%" =
        ["# Review".toList, "Outlook".toList, "Goals:".toList, "- Grow 5%".toList,
          "2) Cut 3%".toList] ∧
      ∃ c lines, parse "# Review\n\nOutlook\nGoals:\n- Grow 5%\n 2) Cut 3%" = .ok c ∧
        List.Forall₂ Reads
          ["Outlook".toList, "Goals:".toList, "- Grow 5%".toList, "2) Cut 3%".toList] lines ∧
        Outlines "# Review".toList lines c := by
  have hlines : linesOf "# Review\n\nOutlook\nGoals:\n- Grow 5%\n 2) Cut 3%" =
      ["# Review".toList, "Outlook".toList, "Goals:".toList, "- Grow 5%".toList,
        "2) Cut 3%".toList] := by
    decide
  exact ⟨hlines, (parse_lines _).2 _ _ hlines⟩

/-- Lines behind the title are an overview up to the first heading. -/
example :
    (parse? "# Review\n\nOutlook\nGoals:\n- Grow 5%\n 2) Cut 3%").map
        (fun c => (c.title, c.sections.map fun s => (s.title, s.items, s.priority))) =
      some ("Review", [("Overview", [], 3), ("Goals", ["Grow 5%", "Cut 3%"], 4)]) := by
  decide +kernel

end SlideDeck.Outline
