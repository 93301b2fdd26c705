import SlideDeck.Proofs.Artifact.Depots
import SlideDeck.Proofs.Files.Storing

/-!
# Artifacts that are kept in a directory

What is stored in a directory of a tree of files is put on the shelf that the directory shows. So
the directory keeps what a run of calls stores, as long as no call fails to write. None does just
when the tree takes in each name that is asked for.
-/

namespace SlideDeck

open Artifact (IsPlain IsName IsComponent partialName)

variable {α : Type}

namespace FileTree

variable {t next : FileTree α} {directory name : String} {c : StoreCall α}
  {calls : List (StoreCall α)}

theorem call_depot_of_error {e : SinkError} (h : c.name = .error e) (t : FileTree α) :
    (depot directory).call c t = (.error e, t) := by
  have hname : Artifact.name c.requestId c.contentType = .error e := h
  unfold Depot.call depot FileAccess.storeArtifact
  dsimp only
  rw [hname]
  rfl

/-- A call with a name is a deck that is stored. -/
theorem call_depot_of_ok (h : c.name = .ok name) (t : FileTree α) :
    (depot directory).call c t =
      match t.storeDeck directory name (partialName name) c.content with
      | .ok next => (.ok (joinPath directory name), next)
      | .error fault => (.error (.writeFailed fault.message), t) := by
  have hname : Artifact.name c.requestId c.contentType = .ok name := h
  unfold Depot.call depot FileAccess.storeArtifact
  dsimp only
  rw [hname]
  dsimp only [bind, StateT.bind, access, change]
  cases t.storeDeck directory name (partialName name) c.content <;> rfl

/-- A deck that is stored in a directory is read there, and drops its temporary name only. -/
theorem stores_of_storeDeck {deck : α} (hname : IsName name)
    (hstore : t.storeDeck directory name (partialName name) deck = .ok next) :
    (depot directory).Stores name deck t next where
  files := by
    refine ⟨fun other => other == name || other == partialName name, by simp,
      fun other hother hne => ?_, ?_⟩
    · change (other == name || other == partialName name) = false
      rw [beq_false_of_ne hne, beq_false_of_ne (hother.ne_partialName name)]
      rfl
    · refine (decksIn_storeDeck hname.isComponent.no_slash hstore).trans ?_
      rw [List.filter_filter]
      simp only [Bool.not_or]
      rfl
  reads := readDeck?_storeDeck hname.isComponent.no_slash hstore hname.isComponent
  keeps other hother hne content hread :=
    readDeck?_storeDeck_of_ne hname.isComponent.no_slash hstore hother.isComponent hne
      (hother.ne_partialName name) hread

theorem lawful_depot (directory : String) : (depot directory : Depot (FileTree α) α).Lawful where
  refuses s hname := call_depot_of_error hname s
  stores := by
    intro c name s hname
    rw [call_depot_of_ok hname]
    cases hstore : s.storeDeck directory name (partialName name) c.content with
    | error fault => exact .inl ⟨_, rfl⟩
    | ok next => exact .inr ⟨rfl, stores_of_storeDeck (StoreCall.isName_of_name hname) hstore⟩

/-- A run succeeds when the tree takes each of its names, before the first call. -/
theorem succeeds_depot_iff : (depot directory).Succeeds t calls ↔
    ∀ c ∈ calls, ∀ name, c.name = .ok name → t.Takes directory name := by
  induction calls generalizing t with
  | nil => exact iff_of_true (fun before c behind h => by simp at h) (by simp)
  | cons c rest ih =>
      rw [Depot.succeeds_cons_iff, List.forall_mem_cons]
      cases hname : c.name with
      | error e =>
          rw [call_depot_of_error hname, ih, Artifact.eq_invalidKey_of_name hname]
          exact and_congr_left fun _ => iff_of_true nofun nofun
      | ok name =>
          have hslash := (Artifact.isComponent_of_name hname).no_slash
          have htakes : (∃ next, t.storeDeck directory name (partialName name) c.content =
              .ok next) ↔ t.Takes directory name := exists_storeDeck_iff hslash
          rw [call_depot_of_ok hname]
          cases hstore : t.storeDeck directory name (partialName name) c.content with
          | error fault =>
              refine iff_of_false (fun h => h.1 _ rfl) fun h => ?_
              obtain ⟨next, hnext⟩ := htakes.mpr (h.1 name rfl)
              rw [hstore] at hnext
              cases hnext
          | ok next =>
              rw [ih]
              simp only [takes_storeDeck_iff hslash hstore]
              refine and_congr_left fun _ => iff_of_true nofun ?_
              rintro _ ⟨⟩
              exact htakes.mp ⟨next, hstore⟩

end FileTree

/-! ## Artifacts are kept -/

/-- Plain ids become names, and what is stored under a name is what its location gives back: on a
shelf, where the name alone is a location too, and in a directory as long as no call fails to write.
None does just when the tree takes each name before the first call. -/
theorem artifacts_are_kept (α : Type) :
    (∀ requestId contentType,
      (∃ name, Artifact.name requestId contentType = .ok name) ↔ IsPlain requestId) ∧
    (∀ requestId contentType name, Artifact.name requestId contentType = .ok name →
      Artifact.Names requestId contentType name ∧
        ∀ s : Shelf α, s.get? name = s.get? (Shelf.location name)) ∧
    (∀ (s : Shelf α) (calls : List (StoreCall α)), Shelf.depot.Keeps s calls) ∧
    ∀ (directory : String) (t : FileTree α) (calls : List (StoreCall α)),
      ((FileTree.depot directory).Succeeds t calls ↔
        ∀ c ∈ calls, ∀ name, c.name = .ok name → t.Takes directory name) ∧
      ((FileTree.depot directory).Succeeds t calls →
        (FileTree.depot directory).Keeps t calls) := by
  refine ⟨fun _ _ => Artifact.exists_name_iff, fun id type name hname => ?_, fun s calls => ?_,
    fun directory t calls => ⟨FileTree.succeeds_depot_iff, fun hsucceeds => ?_⟩⟩
  · refine ⟨Artifact.names_of_name hname, fun s => congrArg s.find? ?_⟩
    rw [Shelf.nameOf_of_no_slash (Artifact.isComponent_of_name hname).no_slash,
      Shelf.nameOf_location]
  · exact Shelf.lawful_depot.keeps (Shelf.succeeds_depot s calls)
  · exact (FileTree.lawful_depot directory).keeps hsucceeds

/-- Two calls with one name, and one between them with an id that is no name. -/
def repeatedCalls : List (StoreCall String) :=
  [⟨"q1", "application/pdf", "draft"⟩, ⟨"../q1", "application/pdf", "stray"⟩,
    ⟨"q1", "application/pdf", "final"⟩]

theorem artifacts_are_kept_repeatedCalls :
    Artifact.Names "q1" "application/pdf" "q1.pdf" ∧
      (FileTree.depot "out").Keeps .empty repeatedCalls ∧
      ((FileTree.depot "out").after .empty repeatedCalls).readDeck? "out/q1.pdf" =
        some "final" := by
  obtain ⟨_, hnames, _, htree⟩ := artifacts_are_kept String
  have hname : Artifact.name "q1" "application/pdf" = .ok "q1.pdf" := rfl
  obtain ⟨hsucceeds, hkeeps⟩ := htree "out" .empty repeatedCalls
  have htakes : FileTree.Takes (.empty : FileTree String) "out" "q1.pdf" := by
    refine ⟨⟨.root, [.enter "out"], false⟩, ⟨[(⟨.above 0, ["out"]⟩, .directory)]⟩, rfl, rfl, ?_⟩
    exact ⟨⟨by decide, by decide⟩, nofun, nofun⟩
  have hstray : Artifact.name "../q1" "application/pdf" = .error (.invalidKey "../q1") := rfl
  have hkept : (FileTree.depot "out").Keeps .empty repeatedCalls := by
    refine hkeeps (hsucceeds.mpr (List.forall_mem_cons.mpr ⟨fun name hfirst => ?_,
      List.forall_mem_cons.mpr ⟨fun name hsecond => ?_,
        List.forall_mem_singleton.mpr fun name hthird => ?_⟩⟩))
    · obtain rfl := Except.ok.inj (hname.symm.trans hfirst)
      exact htakes
    · cases hstray.symm.trans hsecond
    · obtain rfl := Except.ok.inj (hname.symm.trans hthird)
      exact htakes
  obtain ⟨content, hlast, hread⟩ := hkept.reads "q1.pdf" (List.mem_cons_self)
  cases hlast
  exact ⟨(hnames _ _ _ hname).1, hkept, hread⟩

end SlideDeck
