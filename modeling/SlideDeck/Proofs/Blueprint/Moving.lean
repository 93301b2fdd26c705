import SlideDeck.Library.Closings
import SlideDeck.Library.Titles
import SlideDeck.Proofs.Blueprint.Density

/-!
# Slides that are moved

A slide is moved within the order of positions, where slides of one position keep their order.
All others stay in this order, nothing but the positions of slides changes, and these count up
from zero afterwards. So a blueprint to which slides are only added and in which slides are
only moved is dense throughout, and in a dense blueprint the move back undoes a move.
-/

namespace SlideDeck

/-- An element stands at one place of a list and at another of a second list, and without it
the lists are the same. -/
structure Moved {α : Type} (source target : Nat) (xs ys : List α) : Prop where
  element : ∃ x, xs[source]? = some x ∧ ys[target]? = some x
  others : xs.eraseIdx source = ys.eraseIdx target

namespace Moved

variable {α β : Type} {source target : Nat} {xs ys zs : List α}

theorem symm (h : Moved source target xs ys) : Moved target source ys xs := by
  obtain ⟨⟨x, hsource, htarget⟩, hothers⟩ := h
  exact ⟨⟨x, htarget, hsource⟩, hothers.symm⟩

theorem map (f : α → β) (h : Moved source target xs ys) :
    Moved source target (xs.map f) (ys.map f) := by
  obtain ⟨⟨x, hsource, htarget⟩, hothers⟩ := h
  refine ⟨⟨f x, ?_, ?_⟩, ?_⟩
  · rw [List.getElem?_map, hsource, Option.map_some]
  · rw [List.getElem?_map, htarget, Option.map_some]
  · rw [List.eraseIdx_map, List.eraseIdx_map, hothers]

/-- Where an element is moved, it is taken out and put in again. -/
theorem eq_insertIdx (h : Moved source target xs ys) {x : α} (hx : xs[source]? = some x) :
    ys = (xs.eraseIdx source).insertIdx target x := by
  obtain ⟨⟨y, hsource, htarget⟩, hothers⟩ := h
  obtain rfl : x = y := Option.some.inj (hx.symm.trans hsource)
  obtain ⟨hlt, rfl⟩ := List.getElem?_eq_some_iff.mp htarget
  rw [hothers]
  exact (List.insertIdx_eraseIdx_getElem hlt).symm

/-- A move has one outcome. -/
theorem unique (h : Moved source target xs ys) (hother : Moved source target xs zs) :
    ys = zs := by
  obtain ⟨x, hsource, _⟩ := h.element
  exact (h.eq_insertIdx hsource).trans (hother.eq_insertIdx hsource).symm

theorem insertIdx {x : α} (hsource : xs[source]? = some x) (htarget : target < xs.length) :
    Moved source target xs ((xs.eraseIdx source).insertIdx target x) := by
  obtain ⟨hlt, _⟩ := List.getElem?_eq_some_iff.mp hsource
  refine ⟨⟨x, hsource, ?_⟩, List.eraseIdx_insertIdx_self x |>.symm⟩
  rw [List.getElem?_insertIdx_self, List.length_eraseIdx_of_lt hlt, if_pos]
  omega

theorem length_eq (h : Moved source target xs ys) : ys.length = xs.length := by
  obtain ⟨⟨x, hsource, htarget⟩, hothers⟩ := h
  obtain ⟨hsource, _⟩ := List.getElem?_eq_some_iff.mp hsource
  obtain ⟨htarget, _⟩ := List.getElem?_eq_some_iff.mp htarget
  have hlength := congrArg List.length hothers
  rw [List.length_eraseIdx_of_lt hsource, List.length_eraseIdx_of_lt htarget] at hlength
  omega

theorem source_lt (h : Moved source target xs ys) : source < xs.length := by
  obtain ⟨x, hsource, _⟩ := h.element
  exact (List.getElem?_eq_some_iff.mp hsource).1

theorem target_lt (h : Moved source target xs ys) : target < xs.length :=
  h.length_eq ▸ h.symm.source_lt

/-- An element can be moved within a list from any place to any other. -/
theorem exists_iff :
    (∃ ys, Moved source target xs ys) ↔ source < xs.length ∧ target < xs.length := by
  constructor
  · rintro ⟨ys, h⟩
    exact ⟨h.source_lt, h.target_lt⟩
  · rintro ⟨hsource, htarget⟩
    exact ⟨_, insertIdx (List.getElem?_eq_getElem hsource) htarget⟩

end Moved

namespace Blueprint

variable {b moved : Blueprint} {source target : Nat}

/-! ## One move -/

theorem reposition_eq_ok_iff :
    b.reposition source target = .ok moved ↔
      ∃ slides, Moved source target b.sorted.entries slides ∧ moved = densify ⟨slides⟩ := by
  have hsize : b.sorted.entries.length = b.size := b.size_sorted
  unfold reposition
  split
  next hsource =>
    refine iff_of_false nofun ?_
    rintro ⟨slides, hmoved, _⟩
    have hlt := hmoved.source_lt
    omega
  next hsource =>
    split
    next htarget =>
      refine iff_of_false nofun ?_
      rintro ⟨slides, hmoved, _⟩
      have hlt := hmoved.target_lt
      omega
    next htarget =>
      have hlt : source < b.sorted.entries.length := by omega
      have hget := List.getElem?_eq_getElem hlt
      have hmoved : Moved source target b.sorted.entries _ := Moved.insertIdx hget (by omega)
      dsimp only
      rw [hget]
      constructor
      · rintro ⟨⟩
        exact ⟨_, hmoved, rfl⟩
      · rintro ⟨slides, hother, rfl⟩
        rw [hother.unique hmoved]

/-- A move is made whenever there is a slide at either place. -/
theorem exists_reposition_iff :
    (∃ moved, b.reposition source target = .ok moved) ↔ source < b.size ∧ target < b.size := by
  have hsize : b.sorted.entries.length = b.size := b.size_sorted
  rw [← hsize, ← Moved.exists_iff]
  simp only [reposition_eq_ok_iff]
  constructor
  · rintro ⟨_, slides, hmoved, _⟩
    exact ⟨slides, hmoved⟩
  · rintro ⟨slides, hmoved⟩
    exact ⟨_, slides, hmoved, rfl⟩

theorem isDense_reposition (h : b.reposition source target = .ok moved) :
    moved.isDense = true := by
  obtain ⟨slides, _, rfl⟩ := reposition_eq_ok_iff.mp h
  exact isDense_densify _

/-! ## The move back -/

/-- A slide without regard to where it stands. -/
def unplaced (e : BlueprintEntry) : BlueprintEntry := { e with position := 0 }

theorem map_unplaced_renumber (start : Nat) (entries : List BlueprintEntry) :
    (renumber start entries).map unplaced = entries.map unplaced := by
  induction entries generalizing start with
  | nil => rfl
  | cons e rest ih => simp only [renumber, List.map_cons, ih, unplaced]

/-- The positions that slides had make no difference to their numbering. -/
theorem renumber_map_unplaced (start : Nat) (entries : List BlueprintEntry) :
    renumber start (entries.map unplaced) = renumber start entries := by
  induction entries generalizing start with
  | nil => rfl
  | cons e rest ih => simp only [renumber, List.map_cons, ih, unplaced]

/-- In a dense blueprint a move is undone by the move back. -/
theorem reposition_reposition (h : b.isDense = true)
    (hmove : b.reposition source target = .ok moved) :
    moved.reposition target source = .ok b := by
  obtain ⟨slides, hmoved, rfl⟩ := reposition_eq_ok_iff.mp hmove
  rw [sorted_of_isDense h] at hmoved
  rw [reposition_eq_ok_iff, sorted_of_isDense (isDense_densify _)]
  -- the slides that are moved back have been numbered, so they are compared without positions
  have hlength : (densify ⟨slides⟩).entries.length = b.entries.length :=
    (sameSlides_renumber 0 slides).length_eq.symm.trans hmoved.length_eq
  obtain ⟨back, hback⟩ := Moved.exists_iff.mpr
    ⟨hlength ▸ hmoved.target_lt, hlength ▸ hmoved.source_lt⟩
  have hunplaced := hback.map unplaced
  rw [densify, map_unplaced_renumber] at hunplaced
  have hslides : back.map unplaced = b.entries.map unplaced :=
    hunplaced.unique (hmoved.symm.map unplaced)
  refine ⟨back, hback, ?_⟩
  calc b = b.densify := (densify_of_isDense h).symm
    _ = ⟨renumber 0 (b.entries.map unplaced)⟩ := by rw [renumber_map_unplaced]; rfl
    _ = ⟨renumber 0 (back.map unplaced)⟩ := by rw [hslides]
    _ = densify ⟨back⟩ := by rw [renumber_map_unplaced]; rfl

/-! ## Any changes -/

/-- A change of a blueprint. -/
inductive Edit
  | push (c : Component) (data : Json)
  | reposition (source target : Nat)

/-- The blueprint after a change, whether or not it is refused. -/
def after (b : Blueprint) : Edit → Blueprint
  | .push c data => b.push c data
  | .reposition source target => (b.reposition source target).toOption.getD b

/-- The blueprint that some changes make of the empty one. -/
def run (edits : List Edit) : Blueprint := edits.foldl after empty

theorem after_of_refused {refusal : BlueprintError}
    (h : b.reposition source target = .error refusal) :
    b.after (.reposition source target) = b := by
  rw [after, h]
  rfl

theorem isDense_after (h : b.isDense = true) (edit : Edit) : (b.after edit).isDense = true := by
  cases edit with
  | push c data => exact isDense_push h c data
  | reposition source target =>
      cases hmove : b.reposition source target with
      | ok moved =>
          rw [after, hmove]
          exact isDense_reposition hmove
      | error refusal => rwa [after_of_refused hmove]

theorem isDense_run (edits : List Edit) : (run edits).isDense = true := by
  suffices hrun : ∀ b : Blueprint, b.isDense = true → (edits.foldl after b).isDense = true from
    hrun empty rfl
  induction edits with
  | nil => exact fun _ h => h
  | cons edit rest ih => exact fun b h => ih _ (isDense_after h edit)

/-- A move is made just when there are slides at both places, and otherwise the blueprint
stays as it is. What is moved is one slide in the stable order of positions; all others stay
in this order, each slide keeps all but its position, and the outcome is dense. The move back
restores a dense blueprint, and all blueprints that come of appending and moving slides are
dense. -/
theorem reposition_moves (b : Blueprint) (source target : Nat) :
    ((∃ moved, b.reposition source target = .ok moved) ↔ source < b.size ∧ target < b.size) ∧
    (∀ refusal, b.reposition source target = .error refusal →
      b.after (.reposition source target) = b) ∧
    (∀ moved, b.reposition source target = .ok moved →
      moved.isDense = true ∧
      (∃ ordered slides, IsStableSort (·.position) b.entries ordered ∧
        Moved source target ordered slides ∧ SameSlides slides moved.entries) ∧
      (b.isDense = true → moved.reposition target source = .ok b)) ∧
    ∀ edits, (run edits).isDense = true := by
  refine ⟨exists_reposition_iff, fun _ => after_of_refused, fun moved hmove => ?_, isDense_run⟩
  refine ⟨isDense_reposition hmove, ?_, fun hdense => reposition_reposition hdense hmove⟩
  obtain ⟨slides, hmoved, rfl⟩ := reposition_eq_ok_iff.mp hmove
  exact ⟨_, slides, isStableSort_mergeSort _ b.entries, hmoved, sameSlides_renumber 0 slides⟩

/-- Three slides that have been appended one after another. -/
def threeSlides : Blueprint :=
  run [.push Library.minimalCover (.object [("title", .string "Deck")]),
    .push Library.sectionDivider (.object [("sectionName", .string "Part")]),
    .push Library.thankYou (.object [])]

/-- The last of the three comes to the front and goes back again. It cannot be moved behind a
fourth. -/
theorem reposition_moves_threeSlides :
    ∃ moved, threeSlides.reposition 2 0 = .ok moved ∧
      moved.entries.map (fun e => (e.position, e.componentId)) =
        [(0, "core.thank-you"), (1, "core.minimal-cover"), (2, "core.section-divider")] ∧
      moved.isDense = true ∧ threeSlides.isDense = true ∧
      moved.reposition 0 2 = .ok threeSlides ∧
      threeSlides.reposition 2 3 = .error (.outOfRange 3) ∧
      threeSlides.after (.reposition 2 3) = threeSlides := by
  obtain ⟨hmade, _, houtcome, hruns⟩ := reposition_moves threeSlides 2 0
  obtain ⟨moved, hmoved⟩ := hmade.mpr ⟨by decide, by decide⟩
  have hdense : threeSlides.isDense = true := hruns _
  obtain ⟨hmovedDense, _, hback⟩ := houtcome moved hmoved
  have hrefused : threeSlides.reposition 2 3 = .error (.outOfRange 3) := rfl
  refine ⟨moved, hmoved, ?_, hmovedDense, hdense, hback hdense, hrefused,
    (reposition_moves threeSlides 2 3).2.1 _ hrefused⟩
  obtain ⟨slides, hslides, rfl⟩ := reposition_eq_ok_iff.mp hmoved
  rw [sorted_of_isDense hdense] at hslides
  have heq := hslides.eq_insertIdx (x := .of 2 Library.thankYou (.object [])) rfl
  rw [heq]
  rfl

end Blueprint

end SlideDeck
