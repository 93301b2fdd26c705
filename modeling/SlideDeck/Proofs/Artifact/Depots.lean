import Mathlib.Data.List.Dedup
import SlideDeck.Artifact.Depot
import SlideDeck.Proofs.Artifact.Names
import SlideDeck.Proofs.Keys

/-!
# Runs of a depot

A depot refuses a call with an id that is no name and stays what it was. What it does when it
stores something, to its names and to what is read under them, carries over to runs of calls: each
name that is stored under gives back what has been stored there last. A shelf is such a depot.
-/

namespace SlideDeck

open Artifact (IsPlain IsName)

variable {σ α : Type}

/-! ## Calls -/

/-- What is asked of a depot. -/
structure StoreCall (α : Type) where
  requestId : String
  contentType : String
  content : α

namespace StoreCall

/-- The name that a call stores under, or why it is refused. -/
def name (c : StoreCall α) : Except SinkError String := Artifact.name c.requestId c.contentType

/-- The names that calls store under. -/
def names (calls : List (StoreCall α)) : List String := calls.filterMap fun c => c.name.toOption

/-- What the last of some calls that stores under a name stores there. -/
def last? (calls : List (StoreCall α)) (name : String) : Option α :=
  (calls.reverse.find? fun c => c.name.toOption == some name).map (·.content)

end StoreCall

namespace Depot

/-- The answer of a depot to a call, and the state that it leaves. -/
def call (d : Depot σ α) (c : StoreCall α) (s : σ) : Except SinkError String × σ :=
  d.store c.requestId c.contentType c.content s

/-- The state that a run of calls leaves. -/
def after (d : Depot σ α) (s : σ) (calls : List (StoreCall α)) : σ :=
  calls.foldl (fun s c => (d.call c s).2) s

/-- No call of a run fails to write. -/
def Succeeds (d : Depot σ α) (start : σ) (calls : List (StoreCall α)) : Prop :=
  ∀ before c behind, calls = before ++ c :: behind →
    ∀ reason, (d.call c (d.after start before)).1 ≠ .error (.writeFailed reason)

/-- A depot keeps what a run of calls stores. -/
structure Keeps (d : Depot σ α) (start : σ) (calls : List (StoreCall α)) : Prop where
  /-- A plain id is accepted, and the answer is the location of its name. -/
  accepted : ∀ before c behind, calls = before ++ c :: behind → IsPlain c.requestId →
    ∃ name, c.name = .ok name ∧ (d.call c (d.after start before)).1 = .ok (d.location name)
  /-- Another id is refused, and nothing changes. -/
  refused : ∀ before c behind, calls = before ++ c :: behind → ¬ IsPlain c.requestId →
    d.call c (d.after start before) = (.error (.invalidKey c.requestId), d.after start before)
  /-- The location of a name gives back what the last call with the name has stored. -/
  reads : ∀ name ∈ StoreCall.names calls, ∃ content, StoreCall.last? calls name = some content ∧
    d.get? (d.after start calls) (d.location name) = some content
  /-- A call does not touch what is under another name. -/
  others : ∀ before c behind, calls = before ++ c :: behind →
    ∀ name, IsName name → c.name ≠ .ok name →
      (d.files (d.after start (before ++ [c]))).lookup name =
        (d.files (d.after start before)).lookup name ∧
      ∀ content, d.get? (d.after start before) (d.location name) = some content →
        d.get? (d.after start (before ++ [c])) (d.location name) = some content
  /-- There are as many artifacts as there are names, if there are none before. -/
  size : d.size start = 0 → d.size (d.after start calls) = (StoreCall.names calls).dedup.length

end Depot

namespace StoreCall

variable {calls : List (StoreCall α)} {c : StoreCall α} {name : String}

theorem isName_of_name (h : c.name = .ok name) : IsName name := ⟨c.requestId, c.contentType, h⟩

theorem toOption_name_eq_some_iff : c.name.toOption = some name ↔ c.name = .ok name := by
  cases c.name <;> simp [Except.toOption]

theorem mem_names_iff : name ∈ names calls ↔ ∃ c ∈ calls, c.name = .ok name := by
  simp only [names, List.mem_filterMap, toOption_name_eq_some_iff]

theorem mem_names_cons :
    name ∈ names (c :: calls) ↔ c.name = .ok name ∨ name ∈ names calls := by
  simp only [mem_names_iff, List.exists_mem_cons_iff]

/-- The last call with a name has a content, and no call behind it has the name. -/
theorem exists_last (h : name ∈ names calls) : ∃ front c behind, calls = front ++ c :: behind ∧
    c.name = .ok name ∧ name ∉ names behind ∧ last? calls name = some c.content := by
  obtain ⟨c, hfind⟩ :
      ∃ c, calls.reverse.find? (fun c => c.name.toOption == some name) = some c := by
    rw [← Option.isSome_iff_exists, List.find?_isSome]
    obtain ⟨c, hc, hname⟩ := mem_names_iff.mp h
    exact ⟨c, List.mem_reverse.mpr hc, by simp [toOption_name_eq_some_iff.mpr hname]⟩
  obtain ⟨hname, after, before, hsplit, hafter⟩ := List.find?_eq_some_iff_append.mp hfind
  refine ⟨before.reverse, c, after.reverse, ?_, ?_, ?_, by rw [last?, hfind]; rfl⟩
  · rw [← List.reverse_reverse calls, hsplit, List.reverse_append, List.reverse_cons]
    simp
  · exact toOption_name_eq_some_iff.mp (eq_of_beq hname)
  · rw [mem_names_iff]
    rintro ⟨other, hother, hsame⟩
    have hdiffers := hafter other (List.mem_reverse.mp hother)
    rw [toOption_name_eq_some_iff.mpr hsame] at hdiffers
    simp at hdiffers

end StoreCall

/-! ## Steps and runs -/

namespace Depot

variable {d : Depot σ α} {start s next : σ} {calls : List (StoreCall α)} {c : StoreCall α}
  {name other : String} {content : α}

/-- What storing under a name does. Other names of artifacts keep what they have; what has no such
name may be dropped. -/
structure Stores (d : Depot σ α) (name : String) (content : α) (s next : σ) : Prop where
  files : ∃ drops : String → Bool, drops name = true ∧
    (∀ other, IsName other → other ≠ name → drops other = false) ∧
    d.files next = (name, content) :: (d.files s).filter fun file => !drops file.1
  reads : d.get? next (d.location name) = some content
  keeps : ∀ other, IsName other → other ≠ name → ∀ content,
    d.get? s (d.location other) = some content → d.get? next (d.location other) = some content

/-- A depot refuses what has no name, and stores the rest unless it fails to write. -/
structure Lawful (d : Depot σ α) : Prop where
  refuses : ∀ {c e} s, c.name = .error e → d.call c s = (.error e, s)
  stores : ∀ {c name} s, c.name = .ok name →
    (∃ reason, (d.call c s).1 = .error (.writeFailed reason)) ∨
      (d.call c s).1 = .ok (d.location name) ∧ d.Stores name c.content s (d.call c s).2

namespace Stores

variable (h : d.Stores name content s next)
include h

theorem lookup_files (hother : IsName other) : (d.files next).lookup other =
    if other = name then some content else (d.files s).lookup other := by
  obtain ⟨drops, _, hkept, hfiles⟩ := h.files
  rw [hfiles, List.lookup_cons]
  by_cases heq : other = name
  · simp [heq]
  · rw [beq_false_of_ne heq, if_neg heq]
    exact (lookup_filter_keys (fun key => !drops key) _ other).trans
      (if_pos (by rw [hkept other hother heq]; rfl))

/-- Names of artifacts stay distinct, and one is added if it is new. -/
theorem names_files (hdistinct : ((d.files s).map Prod.fst).Nodup)
    (hnames : ∀ other ∈ (d.files s).map Prod.fst, IsName other) :
    ((d.files next).map Prod.fst).Nodup ∧ ∀ other,
      other ∈ (d.files next).map Prod.fst ↔ other = name ∨ other ∈ (d.files s).map Prod.fst := by
  obtain ⟨drops, hdrops, hkept, hfiles⟩ := h.files
  have hmap : (d.files next).map Prod.fst =
      name :: ((d.files s).map Prod.fst).filter fun other => !drops other := by
    rw [hfiles, List.map_cons, List.filter_map]
    rfl
  rw [hmap]
  refine ⟨List.nodup_cons.mpr ⟨by simp [hdrops], hdistinct.filter _⟩, fun other => ?_⟩
  rw [List.mem_cons, List.mem_filter]
  refine or_congr_right' fun heq => and_iff_left_of_imp fun hmem => ?_
  rw [hkept other (hnames other hmem) heq]
  rfl

end Stores

theorem succeeds_cons_iff : d.Succeeds s (c :: calls) ↔
    (∀ reason, (d.call c s).1 ≠ .error (.writeFailed reason)) ∧
      d.Succeeds (d.call c s).2 calls := by
  constructor
  · intro h
    refine ⟨h [] c calls rfl, ?_⟩
    rintro before other behind rfl
    exact h (c :: before) other behind rfl
  · rintro ⟨hfirst, hrest⟩ before other behind hcalls
    cases before with
    | nil =>
        cases hcalls
        exact hfirst
    | cons first before =>
        cases hcalls
        exact hrest before other behind rfl

theorem after_append (d : Depot σ α) (s : σ) (front back : List (StoreCall α)) :
    d.after s (front ++ back) = d.after (d.after s front) back := List.foldl_append

theorem Succeeds.of_append_right {front back : List (StoreCall α)}
    (h : d.Succeeds start (front ++ back)) : d.Succeeds (d.after start front) back := by
  rintro before c behind rfl
  rw [← after_append]
  exact h (front ++ before) c behind (by simp)

namespace Lawful

variable (h : d.Lawful)
include h

/-- A call with a name that does not fail to write is answered with the location. -/
theorem call_of_ok (hname : c.name = .ok name)
    (hwrites : ∀ reason, (d.call c s).1 ≠ .error (.writeFailed reason)) :
    (d.call c s).1 = .ok (d.location name) ∧ d.Stores name c.content s (d.call c s).2 := by
  obtain ⟨reason, hfails⟩ | hstores := h.stores s hname
  · exact absurd hfails (hwrites reason)
  · exact hstores

/-- A call leaves what is under another name. -/
theorem call_of_ne (hwrites : ∀ reason, (d.call c s).1 ≠ .error (.writeFailed reason))
    (hname : IsName name) (hother : c.name ≠ .ok name) :
    (d.files (d.call c s).2).lookup name = (d.files s).lookup name ∧
      ∀ content, d.get? s (d.location name) = some content →
        d.get? (d.call c s).2 (d.location name) = some content := by
  cases hcall : c.name with
  | error e =>
      rw [h.refuses s hcall]
      exact ⟨rfl, fun _ => id⟩
  | ok stored =>
      have hne : name ≠ stored := by
        rintro rfl
        exact hother hcall
      obtain ⟨_, hstores⟩ := h.call_of_ok hcall hwrites
      exact ⟨(hstores.lookup_files hname).trans (if_neg hne), hstores.keeps name hname hne⟩

/-- A run of calls leaves what is read under a name that none of them has. -/
theorem get?_after (hsucceeds : d.Succeeds s calls) (hname : IsName name)
    (hnone : name ∉ StoreCall.names calls) (hread : d.get? s (d.location name) = some content) :
    d.get? (d.after s calls) (d.location name) = some content := by
  induction calls generalizing s with
  | nil => exact hread
  | cons c rest ih =>
      obtain ⟨hwrites, hrest⟩ := succeeds_cons_iff.mp hsucceeds
      obtain ⟨hother, hbehind⟩ := not_or.mp (mt StoreCall.mem_names_cons.mpr hnone)
      exact ih hrest hbehind ((h.call_of_ne hwrites hname hother).2 content hread)

/-- A run of calls adds the names that it stores under. -/
theorem names_after (hsucceeds : d.Succeeds s calls)
    (hdistinct : ((d.files s).map Prod.fst).Nodup)
    (hnames : ∀ name ∈ (d.files s).map Prod.fst, IsName name) :
    ((d.files (d.after s calls)).map Prod.fst).Nodup ∧
      ∀ name, name ∈ (d.files (d.after s calls)).map Prod.fst ↔
        name ∈ StoreCall.names calls ∨ name ∈ (d.files s).map Prod.fst := by
  induction calls generalizing s with
  | nil => exact ⟨hdistinct, fun name => by simp [StoreCall.names, after]⟩
  | cons c rest ih =>
      obtain ⟨hwrites, hrest⟩ := succeeds_cons_iff.mp hsucceeds
      obtain ⟨hnodup, hmem⟩ : ((d.files (d.call c s).2).map Prod.fst).Nodup ∧
          ∀ name, name ∈ (d.files (d.call c s).2).map Prod.fst ↔
            c.name = .ok name ∨ name ∈ (d.files s).map Prod.fst := by
        cases hcall : c.name with
        | error e =>
            rw [h.refuses s hcall]
            exact ⟨hdistinct, fun name => (or_iff_right nofun).symm⟩
        | ok stored =>
            obtain ⟨_, hstores⟩ := h.call_of_ok hcall hwrites
            obtain ⟨hnodup, hmem⟩ := hstores.names_files hdistinct hnames
            refine ⟨hnodup, fun name => (hmem name).trans ?_⟩
            rw [Except.ok.injEq, eq_comm]
      obtain ⟨hnodupRest, hmemRest⟩ := ih hrest hnodup fun name hname =>
        ((hmem name).mp hname).elim StoreCall.isName_of_name (hnames name)
      refine ⟨hnodupRest, fun name => (hmemRest name).trans ?_⟩
      rw [hmem, StoreCall.mem_names_cons, or_left_comm, or_assoc]

/-- A lawful depot keeps what a run of calls stores, as long as it does not fail to write. -/
theorem keeps (hsucceeds : d.Succeeds start calls) : d.Keeps start calls where
  accepted := by
    rintro before c behind rfl hplain
    obtain ⟨name, hname⟩ := Artifact.exists_name_iff.mpr hplain
    exact ⟨name, hname, (h.call_of_ok hname (hsucceeds before c behind rfl)).1⟩
  refused := by
    rintro before c behind rfl hplain
    exact h.refuses _ (Artifact.name_of_not_isPlain c.contentType hplain)
  reads := by
    intro name hmem
    obtain ⟨front, c, behind, rfl, hname, hbehind, hlast⟩ := StoreCall.exists_last hmem
    refine ⟨c.content, hlast, ?_⟩
    obtain ⟨_, hstores⟩ := h.call_of_ok hname (hsucceeds front c behind rfl)
    -- what the last call with the name has stored is not touched by those behind it
    have hrest : d.Succeeds (d.call c (d.after start front)).2 behind :=
      (succeeds_cons_iff.mp hsucceeds.of_append_right).2
    rw [after_append]
    change d.get? (d.after (d.call c (d.after start front)).2 behind) (d.location name) = _
    exact h.get?_after hrest (StoreCall.isName_of_name hname) hbehind hstores.reads
  others := by
    rintro before c behind hcalls name hname hother
    rw [after_append]
    exact h.call_of_ne (hsucceeds before c behind hcalls) hname hother
  size := by
    intro hempty
    have hnone : d.files start = [] := List.length_eq_zero_iff.mp hempty
    obtain ⟨hnodup, hmem⟩ := h.names_after hsucceeds (by rw [hnone]; exact List.nodup_nil)
      (by rw [hnone]; exact nofun)
    have hperm : ((d.files (d.after start calls)).map Prod.fst).Perm
        (StoreCall.names calls).dedup :=
      (List.perm_ext_iff_of_nodup hnodup (List.nodup_dedup _)).mpr fun name => by
        rw [hmem, List.mem_dedup, hnone]
        exact or_iff_left List.not_mem_nil
    rw [size, ← hperm.length_eq, List.length_map]

end Lawful

end Depot

/-! ## Shelves -/

namespace Shelf

variable {name : String}

/-- The location of a name leads to the name. -/
theorem nameOf_location (name : String) : nameOf (location name) = name := by
  simp [nameOf, location, ← String.length_toList]

/-- A location that does not start as those of shelves do is a name itself. -/
theorem nameOf_of_no_slash (h : '/' ∉ name.toList) : nameOf name = name := by
  refine if_neg fun hscheme => h ?_
  exact (List.isPrefixOf_iff_prefix.mp hscheme).subset (by decide)

theorem call_depot_of_error {c : StoreCall α} {e : SinkError} (h : c.name = .error e)
    (s : Shelf α) : depot.call c s = (.error e, s) := by
  have hname : Artifact.name c.requestId c.contentType = .error e := h
  unfold Depot.call depot store
  dsimp only
  rw [hname]
  rfl

theorem call_depot_of_ok {c : StoreCall α} (h : c.name = .ok name) (s : Shelf α) :
    depot.call c s = (.ok (location name), s.put name c.content) := by
  have hname : Artifact.name c.requestId c.contentType = .ok name := h
  unfold Depot.call depot store
  dsimp only
  rw [hname]
  rfl

theorem stores_put (s : Shelf α) (name : String) (content : α) :
    depot.Stores name content s (s.put name content) where
  files := by
    refine ⟨fun other => other == name, beq_self_eq_true name, fun other _ => beq_false_of_ne, rfl⟩
  reads := by
    change (s.put name content).files.lookup (nameOf (location name)) = some content
    rw [nameOf_location, put, List.lookup_cons_self]
  keeps := by
    intro other _ hother found hfound
    change (s.put name content).files.lookup (nameOf (location other)) = some found
    have hfound : s.files.lookup (nameOf (location other)) = some found := hfound
    rw [nameOf_location] at hfound ⊢
    rw [put, List.lookup_cons, beq_false_of_ne hother]
    exact (lookup_filter_keys (fun key => key != name) s.files other).trans
      ((if_pos (bne_iff_ne.mpr hother)).trans hfound)

theorem lawful_depot : (depot : Depot (Shelf α) α).Lawful where
  refuses s hname := call_depot_of_error hname s
  stores := by
    intro c name s hname
    rw [call_depot_of_ok hname]
    exact .inr ⟨rfl, stores_put s name c.content⟩

theorem succeeds_depot (s : Shelf α) (calls : List (StoreCall α)) : depot.Succeeds s calls := by
  rintro before c behind rfl reason
  cases hname : c.name with
  | ok name =>
      rw [call_depot_of_ok hname]
      exact nofun
  | error e =>
      rw [call_depot_of_error hname, Artifact.eq_invalidKey_of_name hname]
      exact nofun

end Shelf

end SlideDeck
