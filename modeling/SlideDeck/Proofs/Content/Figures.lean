import Mathlib.Data.List.TakeWhile
import SlideDeck.Content.Figure

/-!
# Figures as they are written

A text is read as a number by its first figure: what stands between the first character that a
figure can begin with and the next one that it cannot go on with. The text is a number just when
this figure is a decimal. A hyphen or a point in front of the digits of a text begins its figure
too, so a text with digits need not be a number.
-/

namespace SlideDeck.Figure

open Text (isAsciiDigit natOfDigits)

/-! ## The first figure of a text -/

/-- The characters that begin a figure, the minus of typography among them. -/
def begins (c : Char) : Bool := isStart c || c == '−'

/-- The characters that a figure goes on with. -/
def continues (c : Char) : Bool := isPart c || c == '−'

/-- A figure as it is read: with hyphens for minus signs and without commas. -/
def plain (figure : List Char) : List Char :=
  (figure.map fun c => if c = '−' then '-' else c).filter (· != ',')

/-- The first figure of a text stands behind characters that begin none, and goes on as far as it
can. It is empty where there is none. -/
structure FirstFigure (text front figure back : List Char) : Prop where
  split : text = front ++ (figure ++ back)
  front : ∀ c ∈ front, begins c = false
  begun : ∀ c ∈ (figure ++ back).head?, begins c = true
  continued : ∀ c ∈ figure, continues c = true
  ended : ∀ c ∈ back.head?, continues c = false

section FirstFigure

variable {α : Type} {p : α → Bool} {xs : List α} {text front figure back : List Char}

theorem not_of_mem_head?_dropWhile {x : α} (h : x ∈ (xs.dropWhile p).head?) : p x = false := by
  have hhead := List.head?_dropWhile_not p xs
  rw [Option.mem_def.mp h] at hhead
  exact hhead

theorem dropWhile_of_head? (h : ∀ x ∈ xs.head?, p x = false) : xs.dropWhile p = xs := by
  cases xs with
  | nil => rfl
  | cons x rest => exact List.dropWhile_cons_of_neg (ne_true_of_eq_false (h x rfl))

theorem takeWhile_of_head? (h : ∀ x ∈ xs.head?, p x = false) : xs.takeWhile p = [] := by
  cases xs with
  | nil => rfl
  | cons x rest => exact List.takeWhile_cons_of_neg (ne_true_of_eq_false (h x rfl))

theorem exists_firstFigure (text : List Char) :
    ∃ front figure back, FirstFigure text front figure back := by
  let rest := text.dropWhile fun c => !begins c
  have hrest : rest.takeWhile continues ++ rest.dropWhile continues = rest :=
    List.takeWhile_append_dropWhile
  refine ⟨text.takeWhile fun c => !begins c, rest.takeWhile continues, rest.dropWhile continues,
    ?_, ?_, ?_, ?_, ?_⟩
  · rw [hrest, List.takeWhile_append_dropWhile]
  · exact fun c hc => by simpa using List.mem_takeWhile_imp hc
  · rw [hrest]
    exact fun c hc => by simpa using not_of_mem_head?_dropWhile hc
  · exact fun c => List.mem_takeWhile_imp
  · exact fun c => not_of_mem_head?_dropWhile

theorem isStart_hyphen (c : Char) : isStart (if c = '−' then '-' else c) = begins c := by
  unfold begins
  split
  next hc => rw [hc]; rfl
  next hc => rw [beq_false_of_ne hc, Bool.or_false]

theorem isPart_hyphen (c : Char) : isPart (if c = '−' then '-' else c) = continues c := by
  unfold continues
  split
  next hc => rw [hc]; rfl
  next hc => rw [beq_false_of_ne hc, Bool.or_false]

/-- What is read is the first figure. -/
theorem FirstFigure.run_eq (h : FirstFigure text front figure back) : run text = plain figure := by
  have hbegins : (fun c => !isStart c) ∘ (fun c : Char => if c = '−' then '-' else c) =
      fun c => !begins c := funext fun c => congrArg not (isStart_hyphen c)
  have hcontinues : isPart ∘ (fun c : Char => if c = '−' then '-' else c) = continues :=
    funext isPart_hyphen
  have hskipped : text.dropWhile (fun c => !begins c) = figure ++ back := by
    rw [h.split, List.dropWhile_append_of_pos fun c hc => by simp [h.front c hc]]
    exact dropWhile_of_head? fun c hc => by simp [h.begun c hc]
  have htaken : (figure ++ back).takeWhile continues = figure := by
    rw [List.takeWhile_append_of_pos h.continued, takeWhile_of_head? h.ended, List.append_nil]
  rw [run, List.dropWhile_map, hbegins, hskipped, List.takeWhile_map, hcontinues, htaken, plain]

theorem plain_cons {mark : Char} (hmark : begins mark = true) (rest : List Char) :
    plain (mark :: rest) = (if mark = '−' then '-' else mark) :: plain rest := by
  have hcomma : (if mark = '−' then '-' else mark) ≠ ',' := by
    split
    next => decide
    next =>
      rintro rfl
      exact absurd hmark (by decide)
  rw [plain, List.map_cons, List.filter_cons_of_pos (by simpa using hcomma), plain]

end FirstFigure

/-! ## Decimals -/

/-- A decimal without a sign: digits, of which some may stand behind a point. -/
inductive Spells : (digits : List Char) → (places : Nat) → List Char → Prop
  | whole {digits : List Char} : digits ≠ [] → (∀ c ∈ digits, isAsciiDigit c = true) →
      Spells digits 0 digits
  | point {whole fraction : List Char} : whole ++ fraction ≠ [] →
      (∀ c ∈ whole ++ fraction, isAsciiDigit c = true) →
      Spells (whole ++ fraction) fraction.length (whole ++ '.' :: fraction)

/-- What is written for a sign. -/
def minus (negative : Bool) : List Char := if negative then ['-'] else []

/-- A decimal: perhaps a minus, and digits with at most one point. -/
def IsDecimal (cs : List Char) : Prop :=
  ∃ negative digits places unsigned, cs = minus negative ++ unsigned ∧ Spells digits places unsigned

section Decimals

variable {digits cs : List Char} {places : Nat} {negative : Bool} {x : Float} {text : String}

/-- The number of some digits with places behind the point. -/
def numberOf (negative : Bool) (digits : List Char) (places : Nat) : Float :=
  Binary64.ofDecimal negative (natOfDigits digits) (-places)

theorem spells_of_decimal? (h : decimal? negative cs = some x) :
    ∃ digits places, Spells digits places cs ∧ x = numberOf negative digits places := by
  have hsplit : cs = cs.takeWhile isAsciiDigit ++ cs.dropWhile isAsciiDigit :=
    List.takeWhile_append_dropWhile.symm
  have hwhole : ∀ c ∈ cs.takeWhile isAsciiDigit, isAsciiDigit c = true := fun c =>
    List.mem_takeWhile_imp
  unfold decimal? at h
  generalize cs.takeWhile isAsciiDigit = whole at h hsplit hwhole
  generalize cs.dropWhile isAsciiDigit = rest at h hsplit
  obtain rfl := hsplit
  cases rest with
  | nil =>
      dsimp only at h
      split at h
      next => cases h
      next hnonempty =>
        refine ⟨whole, 0, ?_, ?_⟩
        · rw [List.append_nil]
          exact .whole (by simpa using hnonempty) hwhole
        · rw [← Option.some.inj h, List.append_nil]
          rfl
  | cons c fraction =>
      dsimp only at h
      split at h
      next => cases h
      next hfraction =>
        obtain ⟨⟨rfl, hdigits⟩, heq⟩ := Option.ite_none_right_eq_some.mp hfraction
        obtain rfl := Option.some.inj heq
        split at h
        next => cases h
        next hnonempty =>
          refine ⟨whole ++ fraction, fraction.length, .point (by simpa using hnonempty) ?_, ?_⟩
          · exact List.forall_mem_append.mpr ⟨hwhole, List.all_eq_true.mp hdigits⟩
          · exact (Option.some.inj h).symm

theorem decimal?_of_spells (h : Spells digits places cs) :
    decimal? negative cs = some (numberOf negative digits places) := by
  unfold decimal?
  cases h with
  | whole hnonempty hdigits =>
      rw [List.takeWhile_eq_self_iff.mpr hdigits, List.dropWhile_eq_nil_iff.mpr hdigits]
      simp [hnonempty, numberOf]
  | @point whole fraction hnonempty hdigits =>
      obtain ⟨hwhole, hfraction⟩ := List.forall_mem_append.mp hdigits
      have htake : (whole ++ '.' :: fraction).takeWhile isAsciiDigit = whole := by
        rw [List.takeWhile_append_of_pos hwhole]
        exact List.append_nil whole
      have hdrop : (whole ++ '.' :: fraction).dropWhile isAsciiDigit = '.' :: fraction := by
        rw [List.dropWhile_append_of_pos hwhole]
        rfl
      rw [htake, hdrop]
      dsimp only
      rw [if_pos ⟨rfl, List.all_eq_true.mpr hfraction⟩]
      dsimp only
      rw [if_neg (by simpa using hnonempty)]
      rfl

theorem Spells.isAsciiDigit_or_point (h : Spells digits places cs) :
    ∀ c ∈ cs, isAsciiDigit c = true ∨ c = '.' := by
  cases h with
  | whole _ hdigits => exact fun c hc => .inl (hdigits c hc)
  | @point whole fraction _ hdigits =>
      obtain ⟨hwhole, hfraction⟩ := List.forall_mem_append.mp hdigits
      refine List.forall_mem_append.mpr ⟨fun c hc => .inl (hwhole c hc), ?_⟩
      exact List.forall_mem_cons.mpr ⟨.inr rfl, fun c hc => .inl (hfraction c hc)⟩

theorem Spells.exists_digit (h : Spells digits places cs) : ∃ c ∈ cs, isAsciiDigit c = true := by
  cases h with
  | whole hnonempty hdigits =>
      obtain ⟨c, hc⟩ := List.exists_mem_of_ne_nil _ hnonempty
      exact ⟨c, hc, hdigits c hc⟩
  | @point whole fraction hnonempty hdigits =>
      obtain ⟨c, hc⟩ := List.exists_mem_of_ne_nil _ hnonempty
      have hmem : c ∈ whole ++ '.' :: fraction :=
        List.mem_append.mpr ((List.mem_append.mp hc).imp_right (List.mem_cons_of_mem _))
      exact ⟨c, hmem, hdigits c hc⟩

/-- A text is a number when its first figure is a decimal, and then the nearest one to it. -/
theorem leading?_eq_some_iff : leading? text = some x ↔ ∃ negative digits places unsigned,
    run text.toList = minus negative ++ unsigned ∧ Spells digits places unsigned ∧
      x = numberOf negative digits places := by
  unfold leading?
  constructor
  · intro h
    split at h
    next rest hrun =>
      obtain ⟨digits, places, hspells, hx⟩ := spells_of_decimal? h
      exact ⟨true, digits, places, rest, hrun, hspells, hx⟩
    next =>
      obtain ⟨digits, places, hspells, hx⟩ := spells_of_decimal? h
      exact ⟨false, digits, places, _, rfl, hspells, hx⟩
  · rintro ⟨negative, digits, places, unsigned, hrun, hspells, rfl⟩
    rw [hrun]
    cases negative with
    | true => exact decimal?_of_spells hspells
    | false =>
        have hunsigned : minus false ++ unsigned = unsigned := rfl
        rw [hunsigned]
        split
        next rest =>
          -- a decimal without a sign does not start with a hyphen
          have hhyphen := hspells.isAsciiDigit_or_point '-' List.mem_cons_self
          exact absurd hhyphen (by decide)
        next => exact decimal?_of_spells hspells

theorem isSome_leading?_iff : (leading? text).isSome = true ↔ IsDecimal (run text.toList) := by
  rw [Option.isSome_iff_exists]
  constructor
  · rintro ⟨x, hx⟩
    obtain ⟨negative, digits, places, unsigned, hrun, hspells, _⟩ := leading?_eq_some_iff.mp hx
    exact ⟨negative, digits, places, unsigned, hrun, hspells⟩
  · rintro ⟨negative, digits, places, unsigned, hrun, hspells⟩
    exact ⟨_, leading?_eq_some_iff.mpr ⟨negative, digits, places, unsigned, hrun, hspells, rfl⟩⟩

end Decimals

/-! ## Digits of a text -/

section Digits

variable {text front figure back : List Char} {c : Char}

theorem begins_of_isAsciiDigit (h : isAsciiDigit c = true) : begins c = true := by
  rw [begins, isStart, h]
  rfl

theorem continues_of_begins (h : begins c = true) : continues c = true := by
  unfold begins at h
  unfold continues isPart
  rcases Bool.or_eq_true_iff.mp h with h | h <;> simp [h]

theorem mem_of_mem_plain (hc : c ∈ plain figure) (hdigit : isAsciiDigit c = true) : c ∈ figure := by
  obtain ⟨d, hd, hplain⟩ := List.mem_map.mp (List.mem_filter.mp hc).1
  split at hplain
  next =>
    rw [← hplain] at hdigit
    exact absurd hdigit (by decide)
  next => rwa [← hplain]

/-- A number has a digit in the first figure of its text. -/
theorem FirstFigure.exists_digit (h : FirstFigure text front figure back)
    (hdecimal : IsDecimal (plain figure)) : ∃ c ∈ text, isAsciiDigit c = true := by
  obtain ⟨negative, digits, places, unsigned, hplain, hspells⟩ := hdecimal
  obtain ⟨c, hc, hdigit⟩ := hspells.exists_digit
  have hfigure : c ∈ figure := mem_of_mem_plain (by rw [hplain]; simp [hc]) hdigit
  exact ⟨c, by rw [h.split]; simp [hfigure], hdigit⟩

/-- The characters that stand in figures without being digits or commas. -/
def isMark (c : Char) : Bool := c == '-' || c == '−' || c == '.'

theorem FirstFigure.exists_first (h : FirstFigure text front figure back)
    (hbegins : ∃ c ∈ text, begins c = true) :
    ∃ first rest, figure = first :: rest ∧ begins first = true := by
  cases figure with
  | cons first rest => exact ⟨first, rest, rfl, h.begun first rfl⟩
  | nil =>
      obtain ⟨c, hc, hbegun⟩ := hbegins
      rw [h.split, List.nil_append] at hc
      rcases List.mem_append.mp hc with hc | hc
      · rw [h.front c hc] at hbegun
        cases hbegun
      · -- what stands behind the front begins a figure, so it would go on with it
        obtain ⟨first, rest, rfl⟩ := List.exists_cons_of_ne_nil (List.ne_nil_of_mem hc)
        have hcontinues := continues_of_begins (h.begun first rfl)
        rw [h.ended first rfl] at hcontinues
        cases hcontinues

theorem isAsciiDigit_of_mem_plain (hfigure : ∀ c ∈ figure, continues c = true)
    (hmarks : ∀ c ∈ figure, isMark c = false) (hc : c ∈ plain figure) : isAsciiDigit c = true := by
  obtain ⟨hmem, hcomma⟩ := List.mem_filter.mp hc
  obtain ⟨d, hd, rfl⟩ := List.mem_map.mp hmem
  obtain ⟨⟨hhyphen, hminus⟩, hpoint⟩ : (d ≠ '-' ∧ d ≠ '−') ∧ d ≠ '.' := by
    simpa [isMark] using hmarks d hd
  rw [if_neg hminus] at hcomma ⊢
  simpa [continues, isPart, isStart, hhyphen, hminus, hpoint, show d ≠ ',' by simpa using hcomma]
    using hfigure d hd

/-- Without hyphens, minus signs and points the first figure of a text with digits has digits and
commas only. -/
theorem FirstFigure.isDecimal_of_digit (h : FirstFigure text front figure back)
    (hmarks : ∀ c ∈ text, isMark c = false) (hdigit : ∃ c ∈ text, isAsciiDigit c = true) :
    IsDecimal (plain figure) := by
  obtain ⟨first, rest, rfl, hfirst⟩ :=
    h.exists_first (hdigit.imp fun c hc => ⟨hc.1, begins_of_isAsciiDigit hc.2⟩)
  have hunmarked : ∀ c ∈ first :: rest, isMark c = false := fun c hc =>
    hmarks c (by rw [h.split]; exact List.mem_append_right _ (List.mem_append_left _ hc))
  have hnonempty : plain (first :: rest) ≠ [] := by
    rw [plain_cons hfirst]
    exact List.cons_ne_nil _ _
  exact ⟨false, _, 0, _, rfl, .whole hnonempty fun c =>
    isAsciiDigit_of_mem_plain h.continued hunmarked⟩

end Digits

end SlideDeck.Figure
