import SlideDeck.Proofs.Blueprint.Density
import SlideDeck.Proofs.Document.Outcome

/-!
# Slides that are appended

A slide is appended at the position that is the number of slides so far. Where slides are
missing in between, this position can be taken already, and then the deck has no document any
more; or slides can be at greater positions, and then the new one comes in front of them. The
new slide is the last one just when the slides are at the positions below their number.
-/

namespace SlideDeck

namespace Blueprint

open scoped List

variable {b : Blueprint} {c : Component} {data : Json}

/-- The position for the next slide is not taken. -/
def HasRoom (b : Blueprint) : Prop := ∀ e ∈ b.entries, e.position ≠ b.size

/-- A slide comes behind all others: the check passes with it, and in the order of positions
it is the last. -/
structure Appends (b : Blueprint) (c : Component) (data : Json) : Prop where
  check : (b.push c data).check = .ok ()
  last : (b.push c data).sorted.entries = b.sorted.entries ++ [.of b.size c data]

/-! ## The check -/

theorem distinctPositions_push_iff (b : Blueprint) (c : Component) (data : Json) :
    (b.push c data).DistinctPositions ↔ b.DistinctPositions ∧ b.HasRoom := by
  unfold DistinctPositions HasRoom push
  rw [List.map_append, List.nodup_append', List.map_singleton]
  refine and_congr_right fun _ => ?_
  rw [and_iff_right (List.nodup_singleton _), List.disjoint_singleton, List.mem_map]
  exact not_exists.trans (forall_congr' fun _ => not_and)

theorem check_push_eq_ok_iff (h : b.check = .ok ()) :
    (b.push c data).check = .ok () ↔ b.HasRoom := by
  obtain ⟨_, hdistinct⟩ := check_eq_ok_iff.mp h
  have hentries : (b.push c data).entries ≠ [] := List.concat_ne_nil _ _
  rw [check_eq_ok_iff, and_iff_right hentries, distinctPositions_push_iff,
    and_iff_right hdistinct]

/-! ## The order of positions -/

/-- The new slide stands behind those at lower positions and in front of those at greater
ones. -/
theorem sorted_push (hdistinct : b.DistinctPositions) (hroom : b.HasRoom) (c : Component)
    (data : Json) :
    (b.push c data).sorted.entries =
      (b.sorted.entries.filter fun e => e.position < b.size) ++
        .of b.size c data :: b.sorted.entries.filter fun e => b.size < e.position := by
  have hascending := hdistinct.pairwise_sorted
  have hnew := (b.distinctPositions_push_iff c data).mpr ⟨hdistinct, hroom⟩
  have hgreater : (b.sorted.entries.filter fun e => b.size < e.position) =
      b.sorted.entries.filter fun e => !decide (e.position < b.size) := by
    apply List.filter_congr
    intro e he
    have hother := hroom e (b.sorted_perm.mem_iff.mp he)
    rw [Bool.eq_iff_iff, Bool.not_eq_true', decide_eq_true_eq, decide_eq_false_iff_not]
    omega
  refine List.Perm.eq_of_pairwise ?_ hnew.pairwise_sorted ?_ ?_
  · intro x y _ _ hxy hyx
    exact absurd hxy (Nat.lt_asymm hyx)
  · rw [List.pairwise_append, List.pairwise_cons]
    refine ⟨hascending.filter _, ⟨fun y hy => ?_, hascending.filter _⟩, ?_⟩
    · exact of_decide_eq_true (List.mem_filter.mp hy).2
    · intro x hx y hy
      have hlow : x.position < b.size := of_decide_eq_true (List.mem_filter.mp hx).2
      rcases List.mem_cons.mp hy with rfl | hy
      · exact hlow
      · exact Nat.lt_trans hlow (of_decide_eq_true (List.mem_filter.mp hy).2)
  · rw [hgreater]
    calc (b.push c data).sorted.entries
      _ ~ b.entries ++ [.of b.size c data] := (b.push c data).sorted_perm
      _ ~ .of b.size c data :: b.entries := List.perm_append_singleton _ _
      _ ~ .of b.size c data :: b.sorted.entries := b.sorted_perm.symm.cons _
      _ ~ _ := (List.filter_append_perm (fun e => e.position < b.size) _).symm.cons _
      _ ~ _ := List.perm_middle.symm

/-- The new slide is the last one when all others are at lower positions. -/
theorem last_push_iff (hdistinct : b.DistinctPositions) (hroom : b.HasRoom) :
    (b.push c data).sorted.entries = b.sorted.entries ++ [.of b.size c data] ↔
      ∀ e ∈ b.entries, e.position < b.size := by
  constructor
  · intro hlast e he
    have hnew := (b.distinctPositions_push_iff c data).mpr ⟨hdistinct, hroom⟩
    have hascending := hnew.pairwise_sorted
    rw [hlast, List.pairwise_append] at hascending
    exact hascending.2.2 e (b.sorted_perm.mem_iff.mpr he) _ List.mem_cons_self
  · intro hbelow
    have hbelow : ∀ e ∈ b.sorted.entries, e.position < b.size := fun e he =>
      hbelow e (b.sorted_perm.mem_iff.mp he)
    have hnone : (b.sorted.entries.filter fun e => b.size < e.position) = [] := by
      rw [List.filter_eq_nil_iff]
      exact fun e he hgreater => Nat.lt_asymm (hbelow e he) (of_decide_eq_true hgreater)
    rw [sorted_push hdistinct hroom, hnone,
      List.filter_eq_self.mpr fun e he => decide_eq_true (hbelow e he)]

/-- A slide comes behind all others just when these are dense in the order of positions. -/
theorem appends_iff (h : b.check = .ok ()) : b.Appends c data ↔ b.sorted.isDense = true := by
  obtain ⟨_, hdistinct⟩ := check_eq_ok_iff.mp h
  rw [isDense_sorted_iff, and_iff_right hdistinct]
  constructor
  · rintro ⟨hcheck, hlast⟩
    exact (last_push_iff hdistinct ((check_push_eq_ok_iff h).mp hcheck)).mp hlast
  · intro hbelow
    have hroom : b.HasRoom := fun e he => Nat.ne_of_lt (hbelow e he)
    exact ⟨(check_push_eq_ok_iff h).mpr hroom, (last_push_iff hdistinct hroom).mpr hbelow⟩

theorem isDense_sorted_push (hdense : b.sorted.isDense = true) :
    (b.push c data).sorted.isDense = true := by
  obtain ⟨hdistinct, hbelow⟩ := isDense_sorted_iff.mp hdense
  have hroom : b.HasRoom := fun e he => Nat.ne_of_lt (hbelow e he)
  rw [isDense_sorted_iff, distinctPositions_push_iff]
  refine ⟨⟨hdistinct, hroom⟩, fun e he => ?_⟩
  have hsize : (b.push c data).size = b.size + 1 := List.length_append
  rcases List.mem_append.mp he with he | he
  · have hlow := hbelow e he
    omega
  · rw [List.mem_singleton.mp he, hsize]
    exact Nat.lt_succ_self _

/-! ## Documents -/

/-- The page of a slide that comes behind all others comes behind all pages. -/
theorem Appends.compose {k : Catalogue} {limits : ExecutionLimits} {theme : Theme}
    {title : String} {d : Document} (h : b.Appends c data)
    (hcompose : b.compose k limits theme title = .ok d) :
    ∃ next page, (b.push c data).compose k limits theme title = .ok next ∧
      next.pages = d.pages ++ [page] ∧ page.position = b.size ∧ page.componentId = c.id := by
  obtain ⟨_, specs, hspecs, rfl⟩ := compose_eq_ok_iff.mp hcompose
  let spec := (BlueprintEntry.of b.size c data).pageSpec (Snapshot.of c)
  have hnext : pageSpecs k (b.push c data).sorted.entries = .ok (specs ++ [spec]) := by
    rw [h.last, pageSpecs_eq_ok_iff]
    exact List.rel_append (pageSpecs_eq_ok_iff.mp hspecs) (.cons ⟨_, rfl, rfl⟩ .nil)
  refine ⟨_, spec.compose limits theme, compose_eq_ok_iff.mpr ⟨h.check, _, hnext, rfl⟩, ?_, ?_, ?_⟩
  · rw [List.map_append, List.map_singleton]
  · rw [PageSpec.position_compose]
    rfl
  · rw [PageSpec.componentId_compose]
    rfl

/-- A slide that is appended to a blueprint that passes its check leaves it passing just when
no slide is at the position that is their number. It then stands behind those at lower
positions and in front of those at greater ones. It comes behind all just when these are dense
in the order of their positions, and then they stay so and its page is the last. -/
theorem place_of_push (h : b.check = .ok ()) (c : Component) (data : Json) :
    ((b.push c data).check = .ok () ↔ b.HasRoom) ∧
    (b.HasRoom → (b.push c data).sorted.entries =
      (b.sorted.entries.filter fun e => e.position < b.size) ++
        .of b.size c data :: b.sorted.entries.filter fun e => b.size < e.position) ∧
    (b.Appends c data ↔ b.sorted.isDense = true) ∧
    (b.sorted.isDense = true → (b.push c data).sorted.isDense = true ∧
      ∀ k limits theme title d, b.compose k limits theme title = .ok d →
        ∃ next page, (b.push c data).compose k limits theme title = .ok next ∧
          next.pages = d.pages ++ [page] ∧ page.position = b.size ∧
            page.componentId = c.id) := by
  obtain ⟨_, hdistinct⟩ := check_eq_ok_iff.mp h
  refine ⟨check_push_eq_ok_iff h, fun hroom => sorted_push hdistinct hroom c data,
    appends_iff h, fun hdense => ⟨isDense_sorted_push hdense, fun k limits theme title d => ?_⟩⟩
  exact ((appends_iff h).mpr hdense).compose

/-- Two slides that are listed in the reverse order of their positions. -/
def reversedDeck : Blueprint :=
  ⟨[.of 1 Library.sectionDivider (.object [("sectionName", .string "Part")]),
    .of 0 Library.minimalCover (.object [("title", .string "Deck")])]⟩

/-- A closing slide comes behind the two, and so does its page. -/
theorem place_of_push_reversedDeck :
    reversedDeck.check = .ok () ∧ reversedDeck.sorted.isDense = true ∧
      reversedDeck.Appends Library.thankYou (.object []) ∧
      ∃ d next page, reversedDeck.compose .empty .standard .standard "Deck" = .ok d ∧
        (reversedDeck.push Library.thankYou (.object [])).compose .empty .standard .standard
          "Deck" = .ok next ∧
        next.pages = d.pages ++ [page] ∧ page.position = 2 ∧
          page.componentId = "core.thank-you" := by
  have hcheck : reversedDeck.check = .ok () := rfl
  have hdense : reversedDeck.sorted.isDense = true := by
    rw [isDense_sorted_iff]
    exact ⟨by decide, by simp [reversedDeck, BlueprintEntry.of, size]⟩
  have hcomposable : reversedDeck.Composable .empty := by
    refine ⟨List.cons_ne_nil _ _, (isDense_sorted_iff.mp hdense).1, ?_⟩
    simp [reversedDeck, BlueprintEntry.of, BlueprintEntry.Lost]
  obtain ⟨d, hd⟩ := composable_iff.mp hcomposable
  obtain ⟨_, _, happends, hplace⟩ := place_of_push hcheck Library.thankYou (.object [])
  obtain ⟨next, page, hnext, hpages⟩ := (hplace hdense).2 .empty .standard .standard "Deck" d hd
  exact ⟨hcheck, hdense, happends.mpr hdense, d, next, page, hd, hnext, hpages⟩

/-- A single slide at any position. -/
def loneSlide (position : Nat) : Blueprint :=
  ⟨[.of position Library.minimalCover (.object [("title", .string "Deck")])]⟩

/-- A closing slide behind a single slide at any position. -/
def loneSlideClosed (position : Nat) : Blueprint :=
  (loneSlide position).push Library.thankYou (.object [])

/-- The check passes with a single slide at position one and with a single one at position
five. A slide that is appended gets position one: it takes that of the first, so that there
is no document any more, and comes in front of the second. -/
theorem not_appends_loneSlide :
    (loneSlide 1).check = .ok () ∧ (loneSlide 5).check = .ok () ∧
      (loneSlideClosed 1).check = .error (.duplicatePosition 1) ∧
      (loneSlideClosed 1).compose .empty .standard .standard "Deck" =
        .error (.blueprint (.duplicatePosition 1)) ∧
      (loneSlideClosed 5).check = .ok () ∧
      (loneSlideClosed 5).sorted.entries.map (fun e => (e.position, e.componentId)) =
        [(1, "core.thank-you"), (5, "core.minimal-cover")] := by
  refine ⟨rfl, rfl, rfl, rfl, rfl, ?_⟩
  have hdistinct : (loneSlide 5).DistinctPositions := by decide
  have hroom : (loneSlide 5).HasRoom := by simp [HasRoom, loneSlide, BlueprintEntry.of, size]
  have hsorted : (loneSlide 5).sorted.entries = (loneSlide 5).entries :=
    List.mergeSort_singleton _
  rw [loneSlideClosed, sorted_push hdistinct hroom, hsorted]
  rfl

end Blueprint

end SlideDeck
