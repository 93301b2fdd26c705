import Mathlib.Data.List.TakeWhile
import SlideDeck.Library.Frameworks
import SlideDeck.Proofs.Assembly.Candidates
import SlideDeck.Proofs.Text.Pieces

/-!
# Items under the names of lists

An item is cut into a label and a text at its first colon or, without a colon, at its first
hyphen between blanks. A list takes the items whose label is its name, or the form that its
name is cut down to with any number of `s` behind it. This form is the singular of the name
for all lists but one: the weaknesses do not get what is labelled as a weakness.
-/

namespace SlideDeck

namespace Text

theorem mem_trimChars {c : Char} {cs : List Char} (hmem : c ∈ cs) (hc : isBlank c = false) :
    c ∈ trimChars cs := by
  have hkept : ∀ cs : List Char, c ∈ cs → c ∈ cs.dropWhile isBlank := by
    intro cs hmem
    rw [← List.takeWhile_append_dropWhile (p := isBlank) (l := cs)] at hmem
    refine (List.mem_append.mp hmem).resolve_left fun hfront => ?_
    rw [List.mem_takeWhile_imp hfront] at hc
    cases hc
  unfold trimChars dropWhileEnd
  rw [List.mem_reverse]
  exact hkept _ (List.mem_reverse.mpr (hkept cs hmem))

end Text

namespace Label

/-! ## Labels and texts -/

/-- An item is written as a label and a text, with a colon between them or, where there is no
colon, a hyphen between blanks. Outer blanks are part of neither. -/
inductive Written (item : String) (label text : List Char) : Prop
  | colon {head tail : List Char} (hitem : item.toList = head ++ ':' :: tail)
      (hlabel : Text.trimChars head = label) (htext : Text.trimChars tail = text)
  | hyphen {head tail : List Char} (hcolon : ':' ∉ item.toList)
      (hitem : item.toList = head ++ [' ', '-', ' '] ++ tail)
      (hlabel : Text.trimChars head = label) (htext : Text.trimChars tail = text)

variable {item label text field one : String} {cs : List Char}

/-- What is in front of a mark holds no such mark if the label has none. -/
theorem not_mem_of_trimChars {mark : Char} (hmark : Text.isBlank mark = false)
    (h : mark ∉ Text.trimChars cs) : mark ∉ cs :=
  fun hmem => h (Text.mem_trimChars hmem hmark)

theorem split?_eq_some_iff :
    split? item = some (label, text) ↔ ∃ head tail,
      (Text.splitFirst ':' item.toList).or (Text.splitFirstOn [' ', '-', ' '] item.toList) =
        some (head, tail) ∧ Text.trimChars head ≠ [] ∧ Text.trimChars tail ≠ [] ∧
      String.ofList (Text.trimChars head) = label ∧
      String.ofList (Text.trimChars tail) = text := by
  unfold split?
  simp only [Option.bind_eq_bind, Option.bind_eq_some_iff, Prod.exists]
  refine exists_congr fun head => exists_congr fun tail => and_congr_right fun _ => ?_
  split
  next hempty =>
    simp only [Bool.or_eq_true, List.isEmpty_iff] at hempty
    refine iff_of_false (Option.some_ne_none _).symm ?_
    rintro ⟨hhead, htail, _⟩
    exact hempty.elim hhead htail
  next hparts =>
    simp only [Bool.or_eq_true, List.isEmpty_iff, not_or] at hparts
    simp [hparts]

/-- What an item is cut into is how it is written. -/
theorem written_of_split? (h : split? item = some (label, text)) :
    Written item label.toList text.toList ∧ label ≠ "" ∧ text ≠ "" := by
  obtain ⟨head, tail, hcut, hhead, htail, rfl, rfl⟩ := split?_eq_some_iff.mp h
  refine ⟨?_, by simpa using hhead, by simpa using htail⟩
  rw [String.toList_ofList, String.toList_ofList]
  rcases Option.or_eq_some_iff.mp hcut with hcolon | ⟨hnone, hhyphen⟩
  · exact .colon (Text.splitFirst_eq_some_iff.mp hcolon).1 rfl rfl
  · exact .hyphen (Text.splitFirst_eq_none_iff.mp hnone)
      (Text.eq_append_of_splitFirstOn hhyphen) rfl rfl

/-- An item is cut as it is written if its label has no colon and no hyphen. -/
theorem split?_of_written {label text : List Char} (h : Written item label text)
    (hcolon : ':' ∉ label) (hhyphen : '-' ∉ label) (hlabel : label ≠ []) (htext : text ≠ []) :
    split? item = some (String.ofList label, String.ofList text) := by
  rw [split?_eq_some_iff]
  cases h with
  | @colon head tail hitem hhead htail =>
      subst hhead htail
      refine ⟨head, tail, ?_, hlabel, htext, rfl, rfl⟩
      rw [hitem, Text.splitFirst_append (not_mem_of_trimChars (by decide) hcolon)]
      rfl
  | @hyphen head tail hnone hitem hhead htail =>
      subst hhead htail
      refine ⟨head, tail, ?_, hlabel, htext, rfl, rfl⟩
      have hblank : '-' ∉ [' '] := by decide
      rw [Text.splitFirst_eq_none hnone, Option.none_or, hitem]
      exact Text.splitFirstOn_append hblank (not_mem_of_trimChars (by decide) hhyphen) tail

/-! ## The form that a plural shares -/

/-- The words of one form that ends in neither `s` nor `ie`. -/
theorem singular_eq_iff {word form : List Char} (hs : form.getLast? ≠ some 's')
    (hie : ¬ ['i', 'e'] <:+ form) :
    singular word = form ↔ (∃ stem, word = stem ++ ['i', 'e', 's'] ∧ form = stem ++ ['y']) ∨
      ∃ n, word = form ++ List.replicate n 's' := by
  have hlast : form.reverse.dropWhile (· == 's') = form.reverse := by
    rw [List.dropWhile_eq_self_iff]
    intro hlength h
    rw [← List.head?_reverse, List.head?_eq_getElem?, List.getElem?_eq_getElem hlength] at hs
    exact hs (congrArg some (beq_iff_eq.mp h))
  constructor
  · intro h
    unfold singular at h
    split at h
    next stem hword =>
      refine .inl ⟨stem.reverse, ?_, h.symm⟩
      rw [← List.reverse_reverse word, hword]
      simp
    next =>
      refine .inr ⟨(word.reverse.takeWhile (· == 's')).length, ?_⟩
      have hrun : word.reverse.takeWhile (· == 's') =
          List.replicate (word.reverse.takeWhile (· == 's')).length 's' :=
        List.eq_replicate_of_mem fun c hc =>
          beq_iff_eq.mp (List.mem_takeWhile_imp (p := (· == 's')) hc)
      rw [← h, Text.dropWhileEnd, ← List.reverse_replicate, ← hrun, ← List.reverse_append,
        List.takeWhile_append_dropWhile, List.reverse_reverse]
  · rintro (⟨stem, rfl, rfl⟩ | ⟨n, rfl⟩)
    · simp [singular]
    · unfold singular
      rw [List.reverse_append, List.reverse_replicate]
      split
      next stem hword =>
        exfalso
        match n with
        | 0 =>
            rw [List.replicate_zero, List.nil_append] at hword
            rw [← List.head?_reverse, hword] at hs
            exact hs rfl
        | 1 =>
            have hform : form.reverse = 'e' :: 'i' :: stem := (List.cons.inj hword).2
            apply hie
            rw [← List.reverse_reverse form, hform]
            exact ⟨stem.reverse, by simp⟩
        | n + 2 =>
            obtain ⟨_, hrest⟩ := List.cons.inj hword
            exact absurd (List.cons.inj hrest).1 (by decide)
      next =>
        rw [Text.dropWhileEnd, List.reverse_append, List.reverse_replicate,
          List.dropWhile_append_of_pos, hlast, List.reverse_reverse]
        exact fun c hc => beq_iff_eq.mpr (List.eq_of_mem_replicate hc)

/-! ## The items of a list -/

/-- The lists that items are found for by their labels, each with its singular. -/
def keyedNames : List (String × String) :=
  [("pros", "pro"), ("cons", "con"), ("strengths", "strength"), ("weaknesses", "weakness"),
    ("opportunities", "opportunity"), ("threats", "threat"), ("before", "before"),
    ("after", "after")]

/-- The text of an item that is labelled with the name of a list. -/
def textUnder (field item : String) : Option String :=
  (split? item).bind fun (label, text) => if names field label then some text else none

/-- A label calls for a list, in any letter case: it is the name of the list, or the form
that the name is cut down to with any number of `s` behind it. -/
def CallsFor (field : String) (label : List Char) : Prop :=
  label.map lower = field.toList ∨
    ∃ n, label.map lower = singular field.toList ++ List.replicate n 's'

theorem itemsOf_eq_filterMap (field : String) (items : List String) :
    itemsOf field items = items.filterMap (textUnder field) := by
  unfold itemsOf textUnder
  rw [List.filter_filterMap, List.map_filterMap]
  congr 1
  funext item
  cases split? item with
  | none => rfl
  | some parts =>
      obtain ⟨label, text⟩ := parts
      by_cases hnames : names field label = true <;> simp [hnames]

theorem textUnder_eq_some_iff :
    textUnder field item = some text ↔
      ∃ label, split? item = some (label, text) ∧ names field label = true := by
  unfold textUnder
  simp only [Option.bind_eq_some_iff, Prod.exists, Option.ite_none_right_eq_some,
    Option.some.injEq]
  constructor
  · rintro ⟨label, _, hsplit, hnames, rfl⟩
    exact ⟨label, hsplit, hnames⟩
  · rintro ⟨label, hsplit, hnames⟩
    exact ⟨label, text, hsplit, hnames, rfl⟩

/-- What the names of the lists have in common. The form that a name is cut down to ends in
neither `s` nor `ie`, and in `y` only where the name ends in `ies`; it has at least one
character. All characters of the name and of the form are small letters. -/
theorem singular_of_mem_keyedNames (h : (field, one) ∈ keyedNames) :
    (singular field.toList).getLast? ≠ some 's' ∧ ¬ ['i', 'e'] <:+ singular field.toList ∧
      ((singular field.toList).getLast? = some 'y' →
        field.toList = (singular field.toList).dropLast ++ ['i', 'e', 's']) ∧
      singular field.toList ≠ [] ∧
      (field.toList.all Char.isLower = true ∧ (singular field.toList).all Char.isLower = true) := by
  have hall : ∀ entry ∈ keyedNames,
      (singular entry.1.toList).getLast? ≠ some 's' ∧
        ¬ ['i', 'e'] <:+ singular entry.1.toList ∧
        ((singular entry.1.toList).getLast? = some 'y' →
          entry.1.toList = (singular entry.1.toList).dropLast ++ ['i', 'e', 's']) ∧
        singular entry.1.toList ≠ [] ∧
        (entry.1.toList.all Char.isLower = true ∧
          (singular entry.1.toList).all Char.isLower = true) := by
    decide
  exact hall _ h

theorem names_iff_callsFor (h : (field, one) ∈ keyedNames) {label : String} :
    names field label = true ↔ CallsFor field label.toList := by
  obtain ⟨hs, hie, hy, _⟩ := singular_of_mem_keyedNames h
  unfold names CallsFor
  rw [beq_iff_eq]
  constructor
  · intro hsame
    rcases (singular_eq_iff hs hie).mp hsame with ⟨stem, hlabel, hform⟩ | hrun
    · left
      rw [hlabel, hy (by simp [hform]), hform, List.dropLast_concat]
    · exact .inr hrun
  · rintro (hname | hrun)
    · rw [hname]
    · exact (singular_eq_iff hs hie).mpr (.inr hrun)

namespace CallsFor

theorem ne_nil (h : (field, one) ∈ keyedNames) (hcalls : CallsFor field cs) : cs ≠ [] := by
  obtain ⟨_, _, _, hform, _⟩ := singular_of_mem_keyedNames h
  rintro rfl
  rcases hcalls with hname | ⟨n, hrun⟩
  · rw [← hname] at hform
    exact hform rfl
  · exact hform (List.append_eq_nil_iff.mp hrun.symm).1

/-- A label that calls for a list has letters only. -/
theorem not_mem (h : (field, one) ∈ keyedNames) (hcalls : CallsFor field cs) {mark : Char}
    (hmark : mark.isLower = false) (hlower : lower mark = mark) : mark ∉ cs := by
  obtain ⟨_, _, _, _, hname, hform⟩ := singular_of_mem_keyedNames h
  intro hmem
  have hmem : mark ∈ cs.map lower := hlower ▸ List.mem_map_of_mem hmem
  have hletter : mark.isLower = true := by
    rcases hcalls with hsame | ⟨n, hrun⟩
    · exact List.all_eq_true.mp hname mark (hsame ▸ hmem)
    · rcases List.mem_append.mp (hrun ▸ hmem) with hmem | hmem
      · exact List.all_eq_true.mp hform mark hmem
      · rw [List.eq_of_mem_replicate hmem]
        rfl
  rw [hmark] at hletter
  cases hletter

end CallsFor

/-- The text that an item has for a list, by how the item is written. -/
theorem textUnder_iff_written (h : (field, one) ∈ keyedNames) :
    textUnder field item = some text ↔
      text ≠ "" ∧ ∃ label, Written item label text.toList ∧ CallsFor field label := by
  rw [textUnder_eq_some_iff]
  constructor
  · rintro ⟨label, hsplit, hnames⟩
    obtain ⟨hwritten, _, htext⟩ := written_of_split? hsplit
    exact ⟨htext, label.toList, hwritten, (names_iff_callsFor h).mp hnames⟩
  · rintro ⟨htext, label, hwritten, hcalls⟩
    refine ⟨String.ofList label, ?_, (names_iff_callsFor h).mpr (by simpa using hcalls)⟩
    have hcolon : ':' ∉ label := hcalls.not_mem h (by decide) (by decide)
    have hhyphen : '-' ∉ label := hcalls.not_mem h (by decide) (by decide)
    rw [split?_of_written hwritten hcolon hhyphen (hcalls.ne_nil h) (by simpa using htext),
      String.ofList_toList]

/-- The singular of the name calls for every list but one. -/
theorem callsFor_singular (h : (field, one) ∈ keyedNames) (hone : cs.map lower = one.toList) :
    CallsFor field cs ↔ field ≠ "weaknesses" := by
  have hforms : ∀ entry ∈ keyedNames, entry.1 ≠ "weaknesses" →
      entry.2.toList = singular entry.1.toList := by decide
  constructor
  · rintro hcalls rfl
    obtain rfl : one = "weakness" := by
      have hlisted : ∀ entry ∈ keyedNames, entry.1 = "weaknesses" → entry.2 = "weakness" := by
        decide
      exact hlisted _ h rfl
    -- the name of the list is cut down to a form that is longer than its singular
    rcases hcalls with hname | ⟨n, hrun⟩
    · rw [hone] at hname
      exact absurd hname (by decide)
    · have hbegins : singular "weaknesses".toList <+: "weakness".toList :=
        ⟨List.replicate n 's', hrun.symm.trans hone⟩
      exact absurd hbegins (by decide)
  · intro hfield
    exact .inr ⟨0, by rw [hone, hforms _ h hfield, List.replicate_zero, List.append_nil]⟩

/-- A list takes, in their order, the texts of the items whose label calls for it, written with
a colon or with a hyphen between blanks, and nothing else. In any letter case the name of the
list calls for it; so does its singular, for all lists but that of the weaknesses. -/
theorem itemsOf_keyed (h : (field, one) ∈ keyedNames) (items : List String) :
    itemsOf field items = items.filterMap (textUnder field) ∧
      (∀ item text, textUnder field item = some text ↔
        text ≠ "" ∧ ∃ label, Written item label text.toList ∧ CallsFor field label) ∧
      (∀ label, label.map lower = field.toList → CallsFor field label) ∧
      ∀ label, label.map lower = one.toList → (CallsFor field label ↔ field ≠ "weaknesses") :=
  ⟨itemsOf_eq_filterMap field items, fun _ _ => textUnder_iff_written h, fun _ => .inl,
    fun _ => callsFor_singular h⟩

/-- A framework of four lists with one item each, where the weakness is written at will. -/
def fourLists (weakness : String) : Section where
  title := "Framework"
  type := .framework
  items := ["STRENGTH - fast", weakness, "opportunities: east", "Threat: rivals"]

/-- A strength in capital letters and in the singular, behind a hyphen. -/
theorem itemsOf_keyed_fourLists :
    ("strengths", "strength") ∈ keyedNames ∧
      itemsOf "strengths" (fourLists "Weakness: dear").items =
        (fourLists "Weakness: dear").items.filterMap (textUnder "strengths") ∧
      Written "STRENGTH - fast" "STRENGTH".toList "fast".toList ∧
      CallsFor "strengths" "STRENGTH".toList ∧
      textUnder "strengths" "STRENGTH - fast" = some "fast" := by
  have hmem : ("strengths", "strength") ∈ keyedNames := by decide
  obtain ⟨hitems, hwritten, _, hsingular⟩ :=
    itemsOf_keyed hmem (fourLists "Weakness: dear").items
  have hitem : "STRENGTH - fast".toList =
      "STRENGTH".toList ++ [' ', '-', ' '] ++ "fast".toList := by decide
  have hhyphen : Written "STRENGTH - fast" "STRENGTH".toList "fast".toList :=
    .hyphen (by decide) hitem (by decide) (by decide)
  have hcalls : CallsFor "strengths" "STRENGTH".toList :=
    (hsingular _ (by decide)).mpr (by decide)
  exact ⟨hmem, hitems, hhyphen, hcalls,
    (hwritten _ _).mpr ⟨by decide, _, hhyphen, hcalls⟩⟩

/-- What is labelled as a weakness is not among the weaknesses, and the component for the four
lists cannot show the framework. With the plural it can. -/
theorem weakness_not_listed :
    ("weaknesses", "weakness") ∈ keyedNames ∧
      Written "Weakness: dear" "Weakness".toList "dear".toList ∧
      "Weakness".toList.map lower = "weakness".toList ∧
      itemsOf "weaknesses" (fourLists "Weakness: dear").items = [] ∧
      ¬ Library.swotGrid.CanShow (Material.ofSection (fourLists "Weakness: dear")) ∧
      itemsOf "weaknesses" (fourLists "Weaknesses: dear").items = ["dear"] ∧
      Library.swotGrid.CanShow (Material.ofSection (fourLists "Weaknesses: dear")) := by
  have hitem : "Weakness: dear".toList = "Weakness".toList ++ ':' :: " dear".toList := by decide
  have hcolon : Written "Weakness: dear" "Weakness".toList "dear".toList :=
    .colon hitem (by decide) (by decide)
  rw [Component.canShow_iff, Component.canShow_iff]
  exact ⟨by decide, hcolon, by decide, by decide +kernel, by decide +kernel, by decide +kernel,
    by decide +kernel⟩

end Label

end SlideDeck
