import SlideDeck.Assembly.RuleBased
import SlideDeck.Proofs.Assembly.Adoption
import SlideDeck.Proofs.Assembly.Preference

/-!
# Candidates and the choice among them

The candidates for some material are the components of a pool that can show it. The slide of
a section is the one of the best candidate, unless its component is worn out; the second
candidate comes next, then text, and the same component once more only where there is neither.
-/

namespace SlideDeck

/-- A public component of a category that is not retired. -/
def Component.Serves (c : Component) (category : Category) : Prop :=
  c.isPublic = true ∧ c.category = category ∧ c.deprecated = false

/-- A component adopts the payload that its schema binds from some material. -/
def Component.CanShow (c : Component) (m : Material) : Prop :=
  ∃ data, c.Adopts (Binding.payload c.dataSchema m) data

theorem Component.canShow_iff {c : Component} {m : Material} :
    c.CanShow m ↔ (c.conform (Binding.payload c.dataSchema m)).data?.isSome = true := by
  rw [Option.isSome_iff_exists]
  exact exists_congr fun _ => conform_data?_iff.symm

/-- Some closing component can show the message of a closing slide. -/
def HasClosing (components : List Component) : Prop :=
  ∃ c ∈ components, c.Serves .closing ∧ c.CanShow Material.closing

namespace Candidate

variable {pool : List Component} {m : Material} {tag : String} {candidate : Candidate}
  {c : Component}

theorem mem_ranked_iff :
    candidate ∈ ranked pool m tag ↔ ∃ c ∈ pool, of? m tag c = some candidate := by
  unfold ranked
  rw [List.mem_mergeSort, List.mem_filterMap]

/-- A candidate is a component of the pool with what it adopts of the payload. -/
theorem adopts_of_mem_ranked (h : candidate ∈ ranked pool m tag) :
    candidate.component ∈ pool ∧ candidate.component.Adopts
      (Binding.payload candidate.component.dataSchema m) candidate.data := by
  obtain ⟨c, hc, hof⟩ := mem_ranked_iff.mp h
  obtain ⟨data, hdata, rfl⟩ := Option.map_eq_some_iff.mp hof
  exact ⟨hc, Component.conform_data?_iff.mp hdata⟩

/-- What can show the material is among the candidates. -/
theorem exists_mem_ranked (hmem : c ∈ pool) (hshow : c.CanShow m) (tag : String) :
    ∃ candidate ∈ ranked pool m tag, candidate.component = c := by
  obtain ⟨data, hadopts⟩ := hshow
  have hof : of? m tag c = some ⟨c, data, data.filledLeaves, c.hasTag tag⟩ := by
    unfold of?
    rw [Component.conform_data?_iff.mpr hadopts]
    rfl
  exact ⟨_, mem_ranked_iff.mpr ⟨c, hmem, hof⟩, rfl⟩

theorem ids_filterMap_sublist (pool : List Component) (m : Material) (tag : String) :
    ((pool.filterMap (of? m tag)).map (·.component.id)).Sublist (pool.map (·.id)) := by
  induction pool with
  | nil => exact .slnil
  | cons c rest ih =>
      cases hof : of? m tag c with
      | none =>
          rw [List.filterMap_cons_none hof]
          exact ih.cons _
      | some candidate =>
          rw [List.filterMap_cons_some hof, List.map_cons, List.map_cons,
            component_of_of?_eq_some hof]
          exact ih.cons_cons _

/-- Among components of distinct ids there is one candidate of an id at most. -/
theorem nodup_ids_ranked (hdistinct : DistinctIds pool) (m : Material) (tag : String) :
    ((ranked pool m tag).map (·.component.id)).Nodup :=
  ((List.mergeSort_perm _ _).map _).nodup_iff.mpr
    ((ids_filterMap_sublist pool m tag).nodup hdistinct)

end Candidate

namespace Anchors

variable {a : Anchors} {components : List Component}

theorem mem_pool_iff (husable : a.usable = components.filter (·.isPublic)) {c : Component}
    {category : Category} : c ∈ a.pool category ↔ c ∈ components ∧ c.Serves category := by
  unfold pool Component.Serves
  rw [husable, List.mem_filter, List.mem_filter, Bool.and_eq_true, beq_iff_eq,
    Bool.not_eq_true', and_assoc]

theorem isSome_closing?_iff (husable : a.usable = components.filter (·.isPublic)) :
    a.closing?.isSome = true ↔ HasClosing components := by
  unfold closing?
  rw [Option.isSome_map, List.isSome_head?]
  constructor
  · intro hranked
    obtain ⟨candidate, hcandidate⟩ := List.exists_mem_of_ne_nil _ hranked
    obtain ⟨hpool, hadopts⟩ := Candidate.adopts_of_mem_ranked hcandidate
    obtain ⟨hmem, hserves⟩ := (mem_pool_iff husable).mp hpool
    exact ⟨candidate.component, hmem, hserves, candidate.data, hadopts⟩
  · rintro ⟨c, hmem, hserves, hshow⟩
    obtain ⟨candidate, hcandidate, _⟩ := Candidate.exists_mem_ranked
      ((mem_pool_iff husable).mpr ⟨hmem, hserves⟩) hshow "closing"
    exact List.ne_nil_of_mem hcandidate

/-! ## Choices -/

theorem maxRepeats_le_runLength_iff {last earlier : Slide} {rest : List Slide} :
    maxRepeats ≤ runLength (last :: earlier :: rest) ↔
      earlier.component.id = last.component.id := by
  simp only [runLength, maxRepeats, List.takeWhile_cons]
  split
  next hsame =>
    rw [List.length_cons]
    exact iff_of_true (by omega) (beq_iff_eq.mp hsame)
  next hother => exact iff_of_false (by decide) fun hsame => hother (beq_iff_eq.mpr hsame)

/-- A component is worn out when the last two slides are of it. -/
theorem isWornOut_iff {slides : List Slide} {id : String} :
    isWornOut slides id = true ↔ ∃ last earlier rest, slides = last :: earlier :: rest ∧
      last.component.id = id ∧ earlier.component.id = id := by
  unfold isWornOut
  constructor
  · intro h
    rw [Bool.and_eq_true, decide_eq_true_eq] at h
    obtain ⟨hlast, hrun⟩ := h
    match slides with
    | [] => cases hlast
    | [_] => exact absurd hrun (Nat.lt_irrefl 1)
    | last :: earlier :: rest =>
        have hid : last.component.id = id := by simpa using hlast
        exact ⟨last, earlier, rest, rfl, hid, (maxRepeats_le_runLength_iff.mp hrun).trans hid⟩
  · rintro ⟨last, earlier, rest, rfl, rfl, hearlier⟩
    simpa using maxRepeats_le_runLength_iff.mpr hearlier

/-- The choices of a slide for a section, behind some slides and among some candidates. -/
inductive Chooses (a : Anchors) (slides : List Slide) (s : Section) :
    List Candidate → Slide → Prop
  | unmatched : Chooses a slides s [] (a.textSlide s)
  | best {best : Candidate} {others : List Candidate}
      (hfresh : isWornOut slides best.component.id = false) :
      Chooses a slides s (best :: others) best.slide
  | second {best second : Candidate} {others : List Candidate}
      (hworn : isWornOut slides best.component.id = true) :
      Chooses a slides s (best :: second :: others) second.slide
  | text {best : Candidate} (hworn : isWornOut slides best.component.id = true)
      (hother : a.narrative.id ≠ best.component.id) :
      Chooses a slides s [best] (a.textSlide s)
  | again {best : Candidate} (hworn : isWornOut slides best.component.id = true)
      (hsame : a.narrative.id = best.component.id) :
      Chooses a slides s [best] best.slide

theorem chooses_choose (a : Anchors) (slides : List Slide) (s : Section)
    (candidates : List Candidate) :
    a.Chooses slides s candidates (a.choose slides s candidates).1 := by
  cases candidates with
  | nil => exact .unmatched
  | cons best others =>
      unfold choose
      dsimp only
      split
      next hworn =>
        cases others with
        | cons second others => exact .second hworn
        | nil =>
            dsimp only
            split
            next hother => exact .text hworn (bne_iff_ne.mp hother)
            next hsame => exact .again hworn (by simpa using hsame)
      next hfresh => exact .best (Bool.eq_false_iff.mpr hfresh)

end Anchors

end SlideDeck
