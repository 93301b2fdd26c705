import SlideDeck.Content.Outline
import SlideDeck.Proofs.Text.Trimming

/-!
# What a line of an outline is

A line is read by what it is put together from: a marker, blanks and a text, or a text and a
colon. The functions that take a line apart find exactly these forms in lines without outer
blanks.
-/

namespace SlideDeck.Outline

open Text (isBlank trimChars)

/-! ## Markers -/

/-- One to six number signs. -/
def NumberSigns (mark : List Char) : Prop :=
  ∃ n, 1 ≤ n ∧ n ≤ 6 ∧ mark = List.replicate n '#'

/-- A bullet, or a number with a point or a parenthesis. -/
inductive Bullet : List Char → Prop
  | sign {c : Char} (hc : c ∈ ['-', '*', '•']) : Bullet [c]
  | number {digits : List Char} {c : Char} (hnonempty : digits ≠ [])
      (hdigits : ∀ d ∈ digits, Text.isDigit d = true) (hc : c ∈ ['.', ')']) :
      Bullet (digits ++ [c])

/-- A line is a marker, blanks and a text, of which outer blanks do not count. -/
def MarkedBy (marker : List Char → Prop) (line text : List Char) : Prop :=
  ∃ mark gap body, line = mark ++ gap ++ body ∧ marker mark ∧ gap ≠ [] ∧
    (∀ c ∈ gap, isBlank c = true) ∧ body ≠ [] ∧ text = trimChars body

/-- The title of the section that a line opens: the text behind number signs, or the one in
front of a final colon, unless the line has a marker. -/
inductive Heads (line : List Char) : List Char → Prop
  | marked {title : List Char} : MarkedBy NumberSigns line title → Heads line title
  | colon {front : List Char} (hline : line = front ++ [':']) (hfront : trimChars front ≠ [])
      (hsigns : ∀ text, ¬ MarkedBy NumberSigns line text)
      (hbullet : ∀ text, ¬ MarkedBy Bullet line text) : Heads line (trimChars front)

/-- What a line is read as. A heading takes precedence over a bullet. -/
inductive Reads (line : List Char) : Line → Prop
  | heading {title : List Char} : Heads line title → Reads line (.heading (String.ofList title))
  | item {text : List Char} (hheads : ∀ title, ¬ Heads line title)
      (hbullet : MarkedBy Bullet line text) : Reads line (.item (String.ofList text))
  | plain (hheads : ∀ title, ¬ Heads line title) (hbullet : ∀ text, ¬ MarkedBy Bullet line text) :
      Reads line (.plain (String.ofList line))

/-! ## Blanks behind a marker -/

/-- The text behind the blanks that a text starts with. -/
def behindBlanks? (rest : List Char) : Option (List Char) :=
  let text := rest.dropWhile isBlank
  if text.length < rest.length && !text.isEmpty then some (trimChars text) else none

variable {line rest text title : List Char}

/-- A search fails when nothing is of the form that it finds. -/
theorem eq_none_iff_forall_not {found : Option (List Char)} {form : List Char → Prop}
    (h : ∀ {text}, found = some text ↔ form text) : found = none ↔ ∀ text, ¬ form text := by
  rw [Option.eq_none_iff_forall_ne_some]
  exact forall_congr' fun text => not_congr h

theorem exists_of_behindBlanks? (h : behindBlanks? rest = some text) :
    ∃ gap body, rest = gap ++ body ∧ gap ≠ [] ∧ (∀ c ∈ gap, isBlank c = true) ∧ body ≠ [] ∧
      text = trimChars body := by
  obtain ⟨hcond, htext⟩ := Option.ite_none_right_eq_some.mp h
  obtain ⟨hlength, hbody⟩ := Bool.and_eq_true_iff.mp hcond
  have hsplit : rest.takeWhile isBlank ++ rest.dropWhile isBlank = rest :=
    List.takeWhile_append_dropWhile
  refine ⟨rest.takeWhile isBlank, rest.dropWhile isBlank, hsplit.symm, ?_,
    fun c hc => List.mem_takeWhile_imp hc, by simpa using hbody, (Option.some.inj htext).symm⟩
  intro hnil
  rw [hnil, List.nil_append] at hsplit
  simp [hsplit] at hlength

theorem behindBlanks?_append {gap body : List Char} (hnonempty : gap ≠ [])
    (hgap : ∀ c ∈ gap, isBlank c = true) (hbody : ¬ ∀ c ∈ body, isBlank c = true) :
    behindBlanks? (gap ++ body) = some (trimChars body) := by
  have hdrop : (gap ++ body).dropWhile isBlank = body.dropWhile isBlank :=
    List.dropWhile_append_of_pos hgap
  have hlength : (body.dropWhile isBlank).length < (gap ++ body).length := by
    have hle : (body.dropWhile isBlank).length ≤ body.length :=
      (List.dropWhile_suffix isBlank).length_le
    have hpos := List.length_pos_iff.mpr hnonempty
    rw [List.length_append]
    omega
  have htext : body.dropWhile isBlank ≠ [] := mt List.dropWhile_eq_nil_iff.mp hbody
  have htrim : trimChars (body.dropWhile isBlank) = trimChars body := by
    unfold trimChars
    rw [List.dropWhile_idempotent]
  simp only [behindBlanks?, hdrop, htrim]
  exact if_pos (Bool.and_eq_true_iff.mpr ⟨decide_eq_true hlength, by simpa using htext⟩)

/-- In a line without outer blanks, a text behind a marker is one behind its blanks. -/
theorem markedBy_iff {marker : List Char → Prop} (hline : trimChars line = line) :
    MarkedBy marker line text ↔
      ∃ mark rest, line = mark ++ rest ∧ marker mark ∧ behindBlanks? rest = some text := by
  constructor
  · rintro ⟨mark, gap, body, rfl, hmark, hnonempty, hgap, hbody, rfl⟩
    refine ⟨mark, gap ++ body, List.append_assoc .., hmark, ?_⟩
    exact behindBlanks?_append hnonempty hgap (Text.not_forall_isBlank_of_trimmed hline hbody)
  · rintro ⟨mark, rest, rfl, hmark, htext⟩
    obtain ⟨gap, body, rfl, hnonempty, hgap, hbody, rfl⟩ := exists_of_behindBlanks? htext
    exact ⟨mark, gap, body, (List.append_assoc ..).symm, hmark, hnonempty, hgap, hbody, rfl⟩

/-! ## Number signs -/

theorem marked?_eq (line : List Char) :
    marked? line =
      if 1 ≤ (line.takeWhile (· == '#')).length ∧ (line.takeWhile (· == '#')).length ≤ 6 then
        behindBlanks? (line.drop (line.takeWhile (· == '#')).length)
      else none := by
  simp only [marked?, behindBlanks?, Bool.and_eq_true, decide_eq_true_eq, ← and_assoc, ite_and]

theorem marked?_eq_some_iff (hline : trimChars line = line) :
    marked? line = some title ↔ MarkedBy NumberSigns line title := by
  rw [markedBy_iff hline, marked?_eq]
  constructor
  · intro h
    obtain ⟨⟨hone, hsix⟩, htitle⟩ := Option.ite_none_right_eq_some.mp h
    refine ⟨line.takeWhile (· == '#'), _, ?_, ⟨_, hone, hsix, ?_⟩, htitle⟩
    · exact (List.prefix_iff_eq_append.mp (List.takeWhile_prefix _)).symm
    · exact List.eq_replicate_iff.mpr ⟨rfl, fun c hc => by simpa using List.mem_takeWhile_imp hc⟩
  · rintro ⟨mark, rest, rfl, ⟨n, hone, hsix, rfl⟩, htitle⟩
    have htake : (List.replicate n '#' ++ rest).takeWhile (· == '#') = List.replicate n '#' := by
      obtain ⟨gap, body, rfl, hnonempty, hgap, -⟩ := exists_of_behindBlanks? htitle
      obtain ⟨c, more, rfl⟩ := List.exists_cons_of_ne_nil hnonempty
      -- the signs end at the first blank
      have hc : (c == '#') = false := beq_eq_false_iff_ne.mpr (by
        rintro rfl
        exact absurd (hgap '#' List.mem_cons_self) (by decide))
      rw [List.takeWhile_append_of_pos (by simp), List.cons_append, List.takeWhile_cons, hc]
      simp
    rw [htake, List.length_replicate, if_pos ⟨hone, hsix⟩, List.drop_left' List.length_replicate]
    exact htitle

theorem marked?_eq_none_iff (hline : trimChars line = line) :
    marked? line = none ↔ ∀ title, ¬ MarkedBy NumberSigns line title :=
  eq_none_iff_forall_not (marked?_eq_some_iff hline)

/-! ## Bullets -/

/-- What is behind the bullet or the number of a line. -/
def behindBullet? (line : List Char) : Option (List Char) :=
  match line with
  | c :: rest =>
    if c == '-' || c == '*' || c == '•' then some rest
    else
      match line.takeWhile Text.isDigit, line.dropWhile Text.isDigit with
      | _ :: _, mark :: rest => if mark == '.' || mark == ')' then some rest else none
      | _, _ => none
  | [] => none

theorem bullet?_eq (line : List Char) :
    bullet? line = (behindBullet? line).bind behindBlanks? := rfl

theorem behindBullet?_eq_some_iff :
    behindBullet? line = some rest ↔ ∃ mark, line = mark ++ rest ∧ Bullet mark := by
  constructor
  · intro h
    cases line with
    | nil => cases h
    | cons c tail =>
        simp only [behindBullet?] at h
        split at h
        next hsign =>
          cases h
          exact ⟨[c], rfl, .sign (by simpa [or_assoc] using hsign)⟩
        next =>
          split at h
          next d digits mark more htake hdrop =>
            obtain ⟨hmark, hrest⟩ := Option.ite_none_right_eq_some.mp h
            cases hrest
            refine ⟨d :: digits ++ [mark], ?_, .number (List.cons_ne_nil d digits) ?_ ?_⟩
            · rw [← htake, List.append_assoc, List.singleton_append, ← hdrop,
                List.takeWhile_append_dropWhile]
            · rw [← htake]
              exact fun d hd => List.mem_takeWhile_imp hd
            · simpa using hmark
          next => cases h
  · rintro ⟨mark, rfl, hmark⟩
    cases hmark with
    | sign hc =>
        rw [List.singleton_append, behindBullet?]
        exact if_pos (by simpa [or_assoc] using hc)
    | @number digits c hnonempty hdigits hc =>
        obtain ⟨d, more, rfl⟩ := List.exists_cons_of_ne_nil hnonempty
        have hsign : ¬ (d == '-' || d == '*' || d == '•') = true := by
          have hd := hdigits d List.mem_cons_self
          intro hsign
          simp only [Bool.or_eq_true, beq_iff_eq] at hsign
          rcases hsign with (rfl | rfl) | rfl <;> exact absurd hd (by decide)
        have hstop : Text.isDigit c = false := by
          rcases List.mem_pair.mp hc with rfl | rfl <;> decide
        have htake : (d :: more ++ [c] ++ rest).takeWhile Text.isDigit = d :: more := by
          rw [List.append_assoc, List.takeWhile_append_of_pos hdigits, List.singleton_append,
            List.takeWhile_cons_of_neg (ne_true_of_eq_false hstop), List.append_nil]
        have hdrop : (d :: more ++ [c] ++ rest).dropWhile Text.isDigit = c :: rest := by
          rw [List.append_assoc, List.dropWhile_append_of_pos hdigits, List.singleton_append,
            List.dropWhile_cons_of_neg (ne_true_of_eq_false hstop)]
        rw [List.append_assoc, List.cons_append] at htake hdrop ⊢
        simp only [behindBullet?, htake, hdrop]
        rw [if_neg hsign, if_pos (by simpa using hc)]

theorem bullet?_eq_some_iff (hline : trimChars line = line) :
    bullet? line = some text ↔ MarkedBy Bullet line text := by
  rw [bullet?_eq, markedBy_iff hline, Option.bind_eq_some_iff]
  constructor
  · rintro ⟨rest, hrest, htext⟩
    obtain ⟨mark, rfl, hmark⟩ := behindBullet?_eq_some_iff.mp hrest
    exact ⟨mark, rest, rfl, hmark, htext⟩
  · rintro ⟨mark, rest, rfl, hmark, htext⟩
    exact ⟨rest, behindBullet?_eq_some_iff.mpr ⟨mark, rfl, hmark⟩, htext⟩

theorem bullet?_eq_none_iff (hline : trimChars line = line) :
    bullet? line = none ↔ ∀ text, ¬ MarkedBy Bullet line text :=
  eq_none_iff_forall_not (bullet?_eq_some_iff hline)

/-! ## Headings and other lines -/

theorem heading?_eq_some_iff (hline : trimChars line = line) :
    heading? line = some title ↔ Heads line title := by
  constructor
  · intro h
    unfold heading? at h
    split at h
    next marked hmarked =>
      cases h
      exact .marked ((marked?_eq_some_iff hline).mp hmarked)
    next hmarked =>
      split at h
      next front hreverse =>
        obtain ⟨hcond, htitle⟩ := Option.ite_none_left_eq_some.mp h
        obtain ⟨hempty, hbullet⟩ := not_or.mp (mt Bool.or_eq_true_iff.mpr hcond)
        cases htitle
        refine .colon ?_ (mt List.isEmpty_iff.mpr hempty) ((marked?_eq_none_iff hline).mp hmarked)
          ((bullet?_eq_none_iff hline).mp (by simpa using hbullet))
        rw [← List.reverse_reverse line, hreverse, List.reverse_cons]
      next => cases h
  · intro h
    cases h with
    | marked hmarked => rw [heading?, (marked?_eq_some_iff hline).mpr hmarked]
    | @colon front hform hfront hsigns hbullet =>
        have hreverse : line.reverse = ':' :: front.reverse := by
          rw [hform, List.reverse_append, List.reverse_singleton, List.singleton_append]
        rw [heading?, (marked?_eq_none_iff hline).mpr hsigns]
        simp [hreverse, (bullet?_eq_none_iff hline).mpr hbullet, hfront]

theorem heading?_eq_none_iff (hline : trimChars line = line) :
    heading? line = none ↔ ∀ title, ¬ Heads line title :=
  eq_none_iff_forall_not (heading?_eq_some_iff hline)

/-- A line is read in exactly one way. -/
theorem of_eq_iff (hline : trimChars line = line) {l : Line} :
    Line.of line = l ↔ Reads line l := by
  constructor
  · rintro rfl
    unfold Line.of
    split
    next title htitle => exact .heading ((heading?_eq_some_iff hline).mp htitle)
    next hheads =>
      have hheads := (heading?_eq_none_iff hline).mp hheads
      split
      next text htext => exact .item hheads ((bullet?_eq_some_iff hline).mp htext)
      next hbullet => exact .plain hheads ((bullet?_eq_none_iff hline).mp hbullet)
  · intro h
    cases h with
    | heading htitle => rw [Line.of, (heading?_eq_some_iff hline).mpr htitle]
    | item hheads hbullet =>
        rw [Line.of, (heading?_eq_none_iff hline).mpr hheads,
          (bullet?_eq_some_iff hline).mpr hbullet]
    | plain hheads hbullet =>
        rw [Line.of, (heading?_eq_none_iff hline).mpr hheads,
          (bullet?_eq_none_iff hline).mpr hbullet]

end SlideDeck.Outline
