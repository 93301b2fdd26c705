import Mathlib.Data.List.Forall2
import SlideDeck.Blueprint.Basic

/-!
# Numbering of slides

Numbering gives the slides of a list the positions from a number on and changes nothing
else about them. What is said of slides without a word on their positions therefore stays
true when they are numbered.
-/

namespace SlideDeck

/-- A slide shows a component with a payload, wherever it stands. -/
def BlueprintEntry.Shows (e : BlueprintEntry) (c : Component) (data : Json) : Prop :=
  e = .of e.position c data

namespace BlueprintEntry.Shows

variable {e : BlueprintEntry} {c : Component} {data : Json}

theorem of (position : Nat) (c : Component) (data : Json) :
    (BlueprintEntry.of position c data).Shows c data := rfl

theorem componentId_eq (h : e.Shows c data) : e.componentId = c.id := by
  rw [h]
  rfl

theorem data_eq (h : e.Shows c data) : e.data = data := by
  rw [h]
  rfl

theorem move (h : e.Shows c data) (position : Nat) :
    ({ e with position := position } : BlueprintEntry).Shows c data := by
  rw [h]
  rfl

end BlueprintEntry.Shows

namespace Blueprint

/-- The same slides in the same order, at whatever positions. -/
def SameSlides (entries others : List BlueprintEntry) : Prop :=
  List.Forall₂ (fun e other => ∃ position, other = { e with position := position })
    entries others

theorem sameSlides_renumber (start : Nat) (entries : List BlueprintEntry) :
    SameSlides entries (renumber start entries) := by
  induction entries generalizing start with
  | nil => exact .nil
  | cons e rest ih => exact .cons ⟨start, rfl⟩ (ih (start + 1))

namespace SameSlides

variable {entries others : List BlueprintEntry}

theorem append {more moreOthers : List BlueprintEntry} (h : SameSlides entries others)
    (hmore : SameSlides more moreOthers) : SameSlides (entries ++ more) (others ++ moreOthers) :=
  List.rel_append h hmore

/-- What relates slides to other things, slide by slide, whatever their positions. -/
theorem forall₂ {α : Type} {r : α → BlueprintEntry → Prop} (h : SameSlides entries others)
    (hr : ∀ x e position, r x e → r x { e with position := position }) {xs : List α}
    (hxs : List.Forall₂ r xs entries) : List.Forall₂ r xs others := by
  induction h generalizing xs with
  | nil => exact hxs
  | cons hsame _ ih =>
      cases hxs with
      | cons hx hrest =>
          obtain ⟨position, rfl⟩ := hsame
          exact .cons (hr _ _ position hx) (ih hrest)

variable {r : BlueprintEntry → Prop}

theorem forall_mem (h : SameSlides entries others)
    (hr : ∀ e position, r e → r { e with position := position })
    (hentries : ∀ e ∈ entries, r e) : ∀ e ∈ others, r e := by
  induction h with
  | nil => exact hentries
  | cons hsame _ ih =>
      obtain ⟨position, rfl⟩ := hsame
      obtain ⟨hfirst, hrest⟩ := List.forall_mem_cons.mp hentries
      exact List.forall_mem_cons.mpr ⟨hr _ position hfirst, ih hrest⟩

theorem exists_mem (h : SameSlides entries others)
    (hr : ∀ e position, r e → r { e with position := position })
    (hentries : ∃ e ∈ entries, r e) : ∃ e ∈ others, r e := by
  induction h with
  | nil => exact hentries
  | cons hsame _ ih =>
      obtain ⟨position, rfl⟩ := hsame
      rcases (List.exists_mem_cons_iff ..).mp hentries with hfirst | hrest
      · exact ⟨_, List.mem_cons_self, hr _ position hfirst⟩
      · obtain ⟨e, he, hre⟩ := ih hrest
        exact ⟨e, List.mem_cons_of_mem _ he, hre⟩

end SameSlides

/-! ## Positions -/

theorem renumber_append (start : Nat) (front back : List BlueprintEntry) :
    renumber start (front ++ back) =
      renumber start front ++ renumber (start + front.length) back := by
  induction front generalizing start with
  | nil => rfl
  | cons e rest ih =>
      simp only [List.cons_append, renumber, ih, List.length_cons]
      rw [Nat.add_right_comm, Nat.add_assoc]

theorem positions_renumber (start : Nat) (entries : List BlueprintEntry) :
    (renumber start entries).map (·.position) = List.range' start entries.length := by
  induction entries generalizing start with
  | nil => rfl
  | cons e rest ih => simp only [renumber, List.map_cons, ih, List.length_cons, List.range'_succ]

/-- Slides that count up from a number already are left as they are. -/
theorem renumber_eq_self {start : Nat} {entries : List BlueprintEntry}
    (h : entries.map (·.position) = List.range' start entries.length) :
    renumber start entries = entries := by
  induction entries generalizing start with
  | nil => rfl
  | cons e rest ih =>
      simp only [List.map_cons, List.length_cons, List.range'_succ, List.cons.injEq] at h
      obtain ⟨rfl, hrest⟩ := h
      simp only [renumber, ih hrest]

theorem countsFrom_iff {start : Nat} {entries : List BlueprintEntry} :
    countsFrom start entries = true ↔
      entries.map (·.position) = List.range' start entries.length := by
  induction entries generalizing start with
  | nil => exact ⟨fun _ => rfl, fun _ => rfl⟩
  | cons e rest ih =>
      simp only [countsFrom, Bool.and_eq_true, beq_iff_eq, ih, List.map_cons, List.length_cons,
        List.range'_succ, List.cons.injEq]

/-- Where positions count up from zero, each slide stands at its position. -/
theorem position_of_getElem? {entries : List BlueprintEntry}
    (h : entries.map (·.position) = List.range entries.length) {i : Nat} {e : BlueprintEntry}
    (he : entries[i]? = some e) : e.position = i := by
  obtain ⟨hlt, _⟩ := List.getElem?_eq_some_iff.mp he
  have hposition : (entries.map (·.position))[i]? = some i := by rw [h, List.getElem?_range hlt]
  rw [List.getElem?_map, he] at hposition
  exact Option.some.inj hposition

/-! ## Dense blueprints -/

variable {b : Blueprint}

theorem positions_of_isDense (h : b.isDense = true) :
    b.entries.map (·.position) = List.range b.entries.length :=
  (countsFrom_iff.mp h).trans List.range_eq_range'.symm

theorem isDense_densify (b : Blueprint) : b.densify.isDense = true := by
  rw [isDense, countsFrom_iff, densify, positions_renumber, (sameSlides_renumber ..).length_eq]

theorem densify_of_isDense (h : b.isDense = true) : b.densify = b :=
  congrArg Blueprint.mk (renumber_eq_self (countsFrom_iff.mp h))

/-- A slide behind dense ones gets the position that keeps them dense. -/
theorem isDense_push (h : b.isDense = true) (c : Component) (data : Json) :
    (b.push c data).isDense = true := by
  unfold isDense at h ⊢
  rw [countsFrom_iff] at h ⊢
  rw [push, List.map_append, h, List.length_append, List.length_singleton, List.range'_concat,
    Nat.one_mul, Nat.zero_add]
  rfl

end Blueprint

end SlideDeck
