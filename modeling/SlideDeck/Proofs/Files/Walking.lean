import SlideDeck.Files.Tree
import SlideDeck.Proofs.Keys
import SlideDeck.Proofs.Render.Lockstep.Basic

/-!
# Walks through a tree of files

A walk that gets to its end is at the place that its steps lead to, and it gets there in every tree
that has the directories of this one. Directories are made at places where there is nothing, so a
tree in which some are made has what it had before, and the path they are made for is walked in it.
-/

namespace SlideDeck

/-! ## Places -/

namespace Place

variable {p directory : Place} {name other : String}

@[simp]
theorem names_child_ne_nil : (p.child name).names ≠ [] :=
  List.append_ne_nil_of_right_ne_nil _ (List.cons_ne_nil _ _)

@[simp]
theorem parent_child : (p.child name).parent = p := by
  obtain ⟨base, names⟩ := p
  cases names with
  | nil => rfl
  | cons first rest => exact congrArg (Place.mk base) List.dropLast_concat

@[simp]
theorem child_inj : p.child name = p.child other ↔ name = other := by
  simp [child]

/-- What lies in a directory under a name is what the directory has under it. -/
theorem eq_child_iff : p = directory.child name ↔
    p.names.getLast? = some name ∧ p.parent = directory := by
  constructor
  · rintro rfl
    exact ⟨List.getLast?_concat .., parent_child⟩
  · rintro ⟨hname, rfl⟩
    obtain ⟨base, names⟩ := p
    obtain ⟨front, rfl⟩ := List.getLast?_eq_some_iff.mp hname
    change (⟨base, front⟩ : Place).child name =
      ((⟨base, front⟩ : Place).child name).parent.child name
    rw [parent_child]

end Place

namespace FileTree

variable {α : Type} {t made : FileTree α} {p q : Place} {path : TreePath} {node : FileNode α}

/-! ## What lies at a place -/

theorem find?_of_names_ne_nil (hp : p.names ≠ []) : t.find? p = t.nodes.lookup p := by
  simp [find?, hp]

theorem find?_erase (hq : q.names ≠ []) :
    (t.erase p).find? q = if q = p then none else t.find? q := by
  rw [find?_of_names_ne_nil hq, find?_of_names_ne_nil hq, erase,
    lookup_filter_keys fun place => place != p]
  by_cases h : q = p <;> simp [h]

theorem find?_put (hp : p.names ≠ []) :
    (t.put p node).find? q = if q = p then some node else t.find? q := by
  by_cases hroot : q.names = []
  · have hne : q ≠ p := by
      rintro rfl
      exact hp hroot
    simp [find?, hroot, hne]
  · by_cases h : q = p
    · rw [if_pos h, h, find?_of_names_ne_nil hp, put, List.lookup_cons_self]
    · rw [if_neg h, find?_of_names_ne_nil hroot, put, List.lookup_cons, beq_false_of_ne h,
        ← find?_of_names_ne_nil hroot, find?_erase hroot, if_neg h]

/-! ## Steps and walks -/

/-- A step into a name that is not too long, or another one. -/
def Passes : PathStep → Prop
  | .enter name => name.utf8ByteSize ≤ maxNameBytes
  | _ => True

/-- A step is taken from a directory, and leads where it leads from any. -/
theorem follow_eq_ok_iff {s : PathStep} :
    t.follow p s = .ok q ↔ t.find? p = some .directory ∧ Passes s ∧ p.after s = q := by
  unfold follow
  cases hfind : t.find? p with
  | none => simp
  | some node =>
      cases node with
      | text _ => simp
      | deck _ => simp
      | directory =>
          cases s with
          | stay => simp [Passes]
          | back => simp [Passes]
          | enter name =>
              by_cases hlong : maxNameBytes < name.utf8ByteSize
              · simp [hlong, Passes, Nat.not_le_of_lt hlong]
              · simp [hlong, Passes, Place.after, Nat.le_of_not_lt hlong]

theorem walk_eq_ok (h : t.walk path = .ok p) : path.destination = p := by
  obtain ⟨start, steps, endsInSlash⟩ := path
  unfold walk at h
  unfold TreePath.destination
  dsimp only at h ⊢
  induction steps generalizing start with
  | nil => exact Except.ok.inj h
  | cons s rest ih =>
      rw [List.foldlM_cons] at h
      obtain ⟨next, hnext, hrest⟩ := bind_eq_ok_iff.mp h
      rw [List.foldl_cons, (follow_eq_ok_iff.mp hnext).2.2]
      exact ih next hrest

/-- A tree that has the directories of another is walked where that one is. -/
theorem walk_mono (hdirectories : ∀ p, t.find? p = some .directory → made.find? p = some .directory)
    (h : t.walk path = .ok p) : made.walk path = .ok p := by
  obtain ⟨start, steps, endsInSlash⟩ := path
  unfold walk at h ⊢
  dsimp only at h ⊢
  induction steps generalizing start with
  | nil => exact h
  | cons s rest ih =>
      rw [List.foldlM_cons] at h
      obtain ⟨next, hnext, hrest⟩ := bind_eq_ok_iff.mp h
      obtain ⟨hdirectory, hpasses, hafter⟩ := follow_eq_ok_iff.mp hnext
      rw [List.foldlM_cons]
      exact bind_eq_ok_iff.mpr ⟨next,
        follow_eq_ok_iff.mpr ⟨hdirectories start hdirectory, hpasses, hafter⟩, ih next hrest⟩

/-- A path ends at a directory. -/
def Reaches (t : FileTree α) (path : TreePath) : Prop :=
  t.walk path = .ok path.destination ∧ t.find? path.destination = some .directory

theorem Reaches.mono (h : t.Reaches path)
    (hdirectories : ∀ p, t.find? p = some .directory → made.find? p = some .directory) :
    made.Reaches path :=
  ⟨walk_mono hdirectories h.1, hdirectories _ h.2⟩

theorem isDirectory_iff : t.isDirectory path = true ↔ t.Reaches path := by
  unfold isDirectory Reaches
  cases hwalk : t.walk path with
  | error e => simp [Except.toOption]
  | ok p =>
      obtain rfl := walk_eq_ok hwalk
      cases hfind : t.find? path.destination with
      | none => simp [Except.toOption, hfind]
      | some node => cases node <;> simp [Except.toOption, hfind]

end FileTree

/-- The path to a name in a directory. -/
def TreePath.child (path : TreePath) (name : String) : TreePath :=
  ⟨path.start, path.steps ++ [.enter name], false⟩

namespace FileTree

variable {α : Type} {t made : FileTree α} {p target : Place} {path : TreePath} {last : PathStep}
  {steps : List PathStep} {name : String}

/-- The last step of a path is taken from the directory that the others lead to. -/
theorem walk_eq_ok_iff (hsteps : path.steps = steps ++ [last]) : t.walk path = .ok target ↔
    t.Reaches { path with steps } ∧ Passes last ∧
      (TreePath.destination { path with steps }).after last = target := by
  have hsplit : t.walk path = t.walk { path with steps } >>= fun p => t.follow p last := by
    simp [walk, hsteps, List.foldlM_append]
  rw [hsplit, bind_eq_ok_iff]
  constructor
  · rintro ⟨p, hp, hfollow⟩
    obtain rfl := walk_eq_ok hp
    obtain ⟨hdirectory, hpasses, htarget⟩ := follow_eq_ok_iff.mp hfollow
    exact ⟨⟨hp, hdirectory⟩, hpasses, htarget⟩
  · rintro ⟨⟨hp, hdirectory⟩, hpasses, htarget⟩
    exact ⟨_, hp, follow_eq_ok_iff.mpr ⟨hdirectory, hpasses, htarget⟩⟩

theorem walk_child_eq_ok_iff : t.walk (path.child name) = .ok target ↔
    t.Reaches path ∧ Passes (.enter name) ∧ path.destination.child name = target :=
  walk_eq_ok_iff rfl

/-- The last step of a path comes with the directory that the others lead to. -/
theorem walkToLast_eq_ok_iff (hsteps : path.steps = steps ++ [last])
    {result : Option (Place × PathStep)} : t.walkToLast path = .ok result ↔
      t.Reaches { path with steps } ∧
        some (TreePath.destination { path with steps }, last) = result := by
  have hlast : path.steps.getLast? = some last := by rw [hsteps, List.getLast?_concat]
  have hfront : path.steps.dropLast = steps := by rw [hsteps, List.dropLast_concat]
  unfold walkToLast
  rw [hlast, hfront]
  dsimp only
  constructor
  · intro h
    obtain ⟨p, hp, h⟩ := bind_eq_ok_iff.mp h
    obtain ⟨_, hstay, h⟩ := bind_eq_ok_iff.mp h
    obtain rfl := walk_eq_ok hp
    exact ⟨⟨hp, (follow_eq_ok_iff.mp hstay).1⟩, Except.ok.inj h⟩
  · rintro ⟨⟨hp, hdirectory⟩, rfl⟩
    have hstay : t.follow _ .stay = .ok _ := follow_eq_ok_iff.mpr ⟨hdirectory, trivial, rfl⟩
    exact bind_eq_ok_iff.mpr ⟨_, hp, bind_eq_ok_iff.mpr ⟨_, hstay, rfl⟩⟩

/-! ## Making directories -/

/-- A tree has what another has, and no other decks. -/
structure Extends (t made : FileTree α) : Prop where
  keeps : ∀ p node, t.find? p = some node → made.find? p = some node
  decks : ∀ directory,
    made.nodes.filterMap (deckOf? directory) = t.nodes.filterMap (deckOf? directory)

namespace Extends

theorem refl (t : FileTree α) : t.Extends t := ⟨fun _ _ => id, fun _ => rfl⟩

theorem trans {next : FileTree α} (h : t.Extends made) (hnext : made.Extends next) :
    t.Extends next where
  keeps p node hp := hnext.keeps p node (h.keeps p node hp)
  decks directory := (hnext.decks directory).trans (h.decks directory)

/-- A directory where there is nothing. -/
theorem put_directory (hp : p.names ≠ []) (hfree : t.find? p = none) :
    t.Extends (t.put p .directory) := by
  have hlookup : t.nodes.lookup p = none := by simpa [find?, hp] using hfree
  refine ⟨fun q node hq => ?_, fun directory => ?_⟩
  · have hne : q ≠ p := by
      rintro rfl
      rw [hfree] at hq
      cases hq
    rwa [find?_put hp, if_neg hne]
  · have hall : t.nodes.filter (fun node => node.1 != p) = t.nodes :=
      List.filter_eq_self.mpr fun node hnode =>
        bne_iff_ne.mpr (Ne.symm (bne_iff_ne.mp (List.lookup_eq_none_iff.mp hlookup node hnode)))
    have hnone : deckOf? directory (p, (.directory : FileNode α)) = none := by
      unfold deckOf?
      cases p.names.getLast? <;> rfl
    rw [put, erase, hall, List.filterMap_cons_none hnone]

end Extends

theorem makeDirectory_eq_ok (h : t.makeDirectory path = .ok made) :
    t.find? path.destination = none ∧ t.Extends made ∧ made.Reaches path := by
  unfold makeDirectory at h
  obtain ⟨result, hresult, h⟩ := bind_eq_ok_iff.mp h
  split at h
  next p name =>
    obtain ⟨steps, last, hsteps⟩ : ∃ steps last, path.steps = steps ++ [last] := by
      rcases List.eq_nil_or_concat path.steps with hnil | ⟨steps, last, hconcat⟩
      · rw [walkToLast, hnil] at hresult
        cases hresult
      · exact ⟨steps, last, hconcat.trans List.concat_eq_append⟩
    obtain ⟨hreaches, hsome⟩ := (walkToLast_eq_ok_iff hsteps).mp hresult
    cases hsome
    obtain ⟨target, htarget, h⟩ := bind_eq_ok_iff.mp h
    obtain ⟨_, hpasses, rfl⟩ := follow_eq_ok_iff.mp htarget
    split at h
    next => cases h
    next hfree =>
      cases h
      have hnothing := Option.not_isSome_iff_eq_none.mp hfree
      have hextends := Extends.put_directory Place.names_child_ne_nil hnothing
      have hwalk := (walk_eq_ok_iff hsteps).mpr
        ⟨hreaches.mono fun p => hextends.keeps p _, hpasses, rfl⟩
      have hend := walk_eq_ok hwalk
      refine ⟨by rw [hend, hnothing], hextends, hwalk.trans (by rw [hend]), ?_⟩
      rw [hend]
      exact (find?_put Place.names_child_ne_nil).trans (if_pos rfl)
  next => cases h

/-- A directory that is there is not made again. -/
theorem Reaches.demandDirectory_eq (h : t.Reaches path) : t.demandDirectory path = .ok t := by
  cases hmade : t.makeDirectory path with
  | error fault =>
      rw [demandDirectory, hmade]
      exact if_pos (isDirectory_iff.mpr h)
  | ok made =>
      have hnothing := (makeDirectory_eq_ok hmade).1
      rw [h.2] at hnothing
      cases hnothing

theorem demandDirectory_eq_ok (h : t.demandDirectory path = .ok made) :
    t.Extends made ∧ made.Reaches path := by
  unfold demandDirectory at h
  split at h
  next =>
    split at h
    next hthere =>
      cases h
      exact ⟨.refl t, isDirectory_iff.mp hthere⟩
    next => cases h
  next hmade => exact (makeDirectory_eq_ok h).2

/-- The first of some directories is made last, in a tree that the others are made in or in the one
that there was. -/
theorem makeDirectories_cons_eq_ok {above : List TreePath}
    (h : t.makeDirectories (path :: above) = .ok made) : t.demandDirectory path = .ok made ∨
      ∃ between, t.makeDirectories above = .ok between ∧
        between.demandDirectory path = .ok made := by
  rw [makeDirectories] at h
  split at h
  next => exact .inr (bind_eq_ok_iff.mp h)
  next => exact .inl h

theorem extends_of_makeDirectories {paths : List TreePath}
    (h : t.makeDirectories paths = .ok made) : t.Extends made := by
  induction paths generalizing made with
  | nil =>
      cases h
      exact .refl t
  | cons path above ih =>
      rcases makeDirectories_cons_eq_ok h with hmade | ⟨between, habove, hmade⟩
      · exact (demandDirectory_eq_ok hmade).1
      · exact (ih habove).trans (demandDirectory_eq_ok hmade).1

theorem reaches_of_makeDirectories {above : List TreePath}
    (h : t.makeDirectories (path :: above) = .ok made) : made.Reaches path := by
  rcases makeDirectories_cons_eq_ok h with hmade | ⟨between, _, hmade⟩
  · exact (demandDirectory_eq_ok hmade).2
  · exact (demandDirectory_eq_ok hmade).2

theorem Reaches.makeDirectories_eq (h : t.Reaches path) (above : List TreePath) :
    t.makeDirectories (path :: above) = .ok t := by
  rw [makeDirectories, h.demandDirectory_eq]

end FileTree

end SlideDeck
