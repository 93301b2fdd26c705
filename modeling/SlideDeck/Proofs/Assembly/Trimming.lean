import SlideDeck.Assembly.Trimming

/-!
# Sections that are kept

Sections are dropped one at a time, and each of them is the least important one that is not
protected. What is kept is therefore part of the content in its order, with all protected
sections in it.
-/

namespace SlideDeck

/-- A section, in front of some and behind others, is the one to drop: it is not protected,
and of those that are not it is the last of the least priority. -/
structure IsVictim (front : List Section) (s : Section) (back : List Section) : Prop where
  unprotected : s.isProtected = false
  least : ∀ other ∈ front, other.isProtected = false → s.priority ≤ other.priority
  last : ∀ other ∈ back, other.isProtected = false → s.priority < other.priority

namespace IsVictim

variable {front back : List Section} {s first : Section}

/-- A section in front changes nothing, unless it is less important. -/
theorem cons (h : IsVictim front s back)
    (hfirst : first.isProtected = false → s.priority ≤ first.priority) :
    IsVictim (first :: front) s back :=
  ⟨h.unprotected, List.forall_mem_cons.mpr ⟨hfirst, h.least⟩, h.last⟩

/-- A section in front that is less important takes the place. -/
theorem replace (h : IsVictim front s back) (hfirst : first.isProtected = false)
    (hless : first.priority < s.priority) : IsVictim [] first (front ++ s :: back) := by
  refine ⟨hfirst, fun other hother => absurd hother List.not_mem_nil, ?_⟩
  intro other hother hunprotected
  rcases List.mem_append.mp hother with hother | hother
  · exact Nat.lt_of_lt_of_le hless (h.least other hother hunprotected)
  · rcases List.mem_cons.mp hother with rfl | hother
    · exact hless
    · exact Nat.lt_trans hless (h.last other hother hunprotected)

end IsVictim

/-! ## The section to drop -/

/-- The outcomes of the search for the section to drop, counted from a start. -/
inductive VictimSearch (start : Nat) : List Section → Option (Nat × Nat) → Prop
  | none {sections : List Section} (hprotected : ∀ s ∈ sections, s.isProtected = true) :
      VictimSearch start sections none
  | some {front back : List Section} {s : Section} (hvictim : IsVictim front s back) :
      VictimSearch start (front ++ s :: back) (some (start + front.length, s.priority))

theorem victimSearch_go (start : Nat) (sections : List Section) :
    VictimSearch start sections (victim?.go start sections) := by
  induction sections generalizing start with
  | nil => exact .none fun s hs => absurd hs List.not_mem_nil
  | cons first rest ih =>
      have hrest := ih (start + 1)
      unfold victim?.go
      generalize victim?.go (start + 1) rest = found at hrest
      cases hrest with
      | none hprotected =>
          dsimp only
          split
          next hfirst => exact .none (List.forall_mem_cons.mpr ⟨hfirst, hprotected⟩)
          next hfirst =>
            have hvictim : IsVictim [] first rest := by
              refine ⟨Bool.eq_false_iff.mpr hfirst,
                fun other hother => absurd hother List.not_mem_nil, ?_⟩
              intro other hother hunprotected
              rw [hprotected other hother] at hunprotected
              cases hunprotected
            exact .some hvictim
      | @some front back s hvictim =>
          dsimp only
          split
          next hfirst =>
            rw [Bool.and_eq_true, Bool.not_eq_true', decide_eq_true_eq] at hfirst
            exact .some (hvictim.replace hfirst.1 hfirst.2)
          next hfirst =>
            rw [Bool.and_eq_true, Bool.not_eq_true', decide_eq_true_eq, not_and,
              Nat.not_lt] at hfirst
            rw [Nat.add_assoc, Nat.add_comm 1]
            exact .some (hvictim.cons hfirst)

/-- What is found is the section to drop, by the number of sections in front of it. -/
theorem isVictim_of_victim? {sections : List Section} {i : Nat} (h : victim? sections = some i) :
    ∃ front s back, sections = front ++ s :: back ∧ front.length = i ∧
      IsVictim front s back := by
  obtain ⟨found, hfound, rfl⟩ :=
    Option.map_eq_some_iff.mp (show (victim?.go 0 sections).map (·.1) = some i from h)
  have hsearch := victimSearch_go 0 sections
  rw [hfound] at hsearch
  cases hsearch with
  | some hvictim => exact ⟨_, _, _, rfl, (Nat.zero_add _).symm, hvictim⟩

/-! ## Trimming -/

section Induction

variable {motive : List Section → Prop} {sections : List Section}

/-- What holds of the sections, and stays true when the one to drop is dropped from two or
more, holds of what is left. -/
theorem dropDown_induction (most count : Nat) (h : motive sections)
    (hdrop : ∀ front s back, IsVictim front s back → motive (front ++ s :: back) →
      front ++ back ≠ [] → motive (front ++ back)) :
    motive (dropDown most count sections) := by
  induction count generalizing sections with
  | zero => exact h
  | succ count ih =>
      unfold dropDown
      split
      next hmore =>
        cases hvictim? : victim? sections with
        | none => exact h
        | some i =>
            obtain ⟨front, s, back, rfl, rfl, hvictim⟩ := isVictim_of_victim? hvictim?
            have hleft : (front ++ s :: back).eraseIdx front.length = front ++ back := by
              simp [List.eraseIdx_append_of_length_le]
            dsimp only
            rw [hleft]
            apply ih
            apply hdrop front s back hvictim h
            intro hnil
            simp [List.append_eq_nil_iff.mp hnil] at hmore
      next => exact h

theorem trimSections_induction (target : Option Nat) (hasClosing : Bool) (h : motive sections)
    (hdrop : ∀ front s back, IsVictim front s back → motive (front ++ s :: back) →
      front ++ back ≠ [] → motive (front ++ back)) :
    motive (trimSections sections target hasClosing) := by
  cases target with
  | none => exact h
  | some target => exact dropDown_induction _ _ h hdrop

end Induction

variable (sections : List Section) (target : Option Nat) (hasClosing : Bool)

/-- What is kept is in the order of the content. -/
theorem trimSections_sublist : (trimSections sections target hasClosing).Sublist sections := by
  apply trimSections_induction (motive := (List.Sublist · sections)) target hasClosing
    (List.Sublist.refl sections)
  intro front s back _ hsublist _
  exact ((List.sublist_cons_self s back).append_left front).trans hsublist

/-- The protected sections are kept, each as often as it is there. -/
theorem filter_isProtected_trimSections :
    (trimSections sections target hasClosing).filter Section.isProtected =
      sections.filter Section.isProtected := by
  apply trimSections_induction (motive := fun kept =>
    kept.filter Section.isProtected = sections.filter Section.isProtected) target hasClosing rfl
  intro front s back hvictim hfilter _
  rw [← hfilter, List.filter_append, List.filter_append,
    List.filter_cons_of_neg (by simp [hvictim.unprotected])]

end SlideDeck
