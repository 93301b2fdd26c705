import SlideDeck.Proofs.Artifact.Names
import SlideDeck.Proofs.Files.Walking

/-!
# Decks that are stored in a directory

A deck is stored when its directory is there or can be made, its temporary name and the path to it
are not too long, and no directory has one of the names. Then it is read under its name, and what
lies in the directory under other names stays what it was.
-/

namespace SlideDeck

open Artifact (IsComponent partialName)

/-! ## The path to a name in a directory -/

section Joining

variable {directory name : String} {path : TreePath} {front cs : List Char}

theorem pieces_append (front back : List Char) :
    TreePath.pieces (front ++ '/' :: back) = TreePath.pieces front ++ TreePath.pieces back := by
  simp only [TreePath.pieces, Text.splitOn_eq, List.splitOn_append_cons_self, List.filter_append]

theorem pieces_of_isComponent (h : IsComponent name) :
    TreePath.pieces name.toList = [name.toList] := by
  have hone : Text.splitOn '/' (['/'].intercalate [name.toList]) = [name.toList] :=
    Text.splitOn_intercalate (by simpa using h.no_slash) (List.cons_ne_nil _ _)
  rw [List.intercalate_singleton] at hone
  rw [TreePath.pieces, hone]
  simp [h.nonempty]

theorem ofPiece_of_isComponent (h : IsComponent name) : PathStep.ofPiece name = .enter name := by
  rw [PathStep.ofPiece, if_neg h.ne_dot, if_neg h.ne_dots]

theorem utf8ByteSize_joinPath (directory : String) : ∃ between, ∀ name,
    (joinPath directory name).utf8ByteSize =
      directory.utf8ByteSize + between + name.utf8ByteSize := by
  unfold joinPath
  split
  next => exact ⟨0, fun name => by simp⟩
  next => exact ⟨0, fun name => by simp⟩
  next => exact ⟨"/".utf8ByteSize, fun name => by simp⟩

/-- A name is put behind one slash, unless the directory is the empty path. -/
theorem exists_toList_joinPath (name : String) (hdirectory : directory.toList ≠ []) :
    ∃ front, (joinPath directory name).toList = front ++ '/' :: name.toList ∧
      TreePath.pieces front = TreePath.pieces directory.toList ∧
      (front ++ ['/']).head? = directory.toList.head? := by
  unfold joinPath
  split
  next hlast => exact absurd (List.getLast?_eq_none_iff.mp hlast) hdirectory
  next hlast =>
    obtain ⟨front, hfront⟩ := List.getLast?_eq_some_iff.mp hlast
    refine ⟨front, by simp [hfront], ?_, by rw [hfront]⟩
    rw [hfront, pieces_append]
    exact (List.append_nil _).symm
  next => exact ⟨directory.toList, by simp, rfl, List.head?_append_of_ne_nil _ hdirectory⟩

/-- A joined path leads to the name in the directory. -/
theorem ofString?_joinPath (hdirectory : TreePath.ofDirectory? directory = .ok path)
    (hname : IsComponent name) :
    TreePath.ofString? (joinPath directory name) =
      if TreePath.bytesLimit ≤ (joinPath directory name).utf8ByteSize then .error .nameTooLong
      else .ok (path.child name) := by
  have hcs : name.toList ≠ [] := mt String.toList_eq_nil_iff.mp hname.nonempty
  have hlast : name.toList.getLast? ≠ some '/' := fun h => hname.no_slash (List.mem_of_getLast? h)
  have hstep := ofPiece_of_isComponent hname
  by_cases hempty : directory.toList = []
  · have hhead : name.toList.head? ≠ some '/' := fun h => hname.no_slash (List.mem_of_head? h)
    have hjoin : joinPath directory name = name := by
      simp [joinPath, String.toList_eq_nil_iff.mp hempty]
    rw [TreePath.ofDirectory?, hempty] at hdirectory
    cases hdirectory
    simp [hjoin, TreePath.ofString?, hcs, hhead, hlast, pieces_of_isComponent hname, hstep,
      TreePath.child]
  · obtain ⟨front, hjoin, hpieces, hhead⟩ := exists_toList_joinPath name hempty
    have hfirst : (front ++ '/' :: name.toList).head? = directory.toList.head? := by
      rw [← hhead, ← List.singleton_append, ← List.append_assoc]
      exact List.head?_append_of_ne_nil _ (by simp)
    have hnoslash : ('/' :: name.toList).getLast? ≠ some '/' := by
      rwa [← List.singleton_append, List.getLast?_append_of_ne_nil _ hcs]
    rw [TreePath.ofDirectory?, if_neg (by simpa using hempty), TreePath.ofString?,
      if_neg (by simpa using hempty)] at hdirectory
    split at hdirectory
    next => cases hdirectory
    next =>
      cases hdirectory
      simp [TreePath.ofString?, hjoin, hfirst, hnoslash, pieces_append, hpieces,
        pieces_of_isComponent hname, hstep, TreePath.child]

end Joining

namespace FileTree

variable {α : Type} {t made next : FileTree α} {p : Place} {path : TreePath}
  {directory name other : String} {deck : α}

/-! ## One file -/

/-- Neither a name in a directory is too long nor the path to it. -/
def Fits (directory name : String) : Prop :=
  name.utf8ByteSize ≤ maxNameBytes ∧
    (joinPath directory name).utf8ByteSize < TreePath.bytesLimit

/-- Where a temporary name fits, the name does. -/
theorem Fits.of_partialName (h : Fits directory (partialName name)) : Fits directory name := by
  have hname : name.utf8ByteSize ≤ (partialName name).utf8ByteSize := by
    have htext : partialName name = "." ++ name ++ ".partial" := rfl
    rw [htext, String.utf8ByteSize_append, String.utf8ByteSize_append]
    omega
  obtain ⟨between, hjoined⟩ := utf8ByteSize_joinPath directory
  have hpasses := h.1
  have hshort := h.2
  rw [hjoined] at hshort
  refine ⟨by omega, ?_⟩
  rw [hjoined]
  omega

section Joined

variable (hdirectory : TreePath.ofDirectory? directory = .ok path) (hname : IsComponent name)
include hdirectory hname

theorem ofString?_joinPath_eq_ok_iff {joined : TreePath} :
    TreePath.ofString? (joinPath directory name) = .ok joined ↔
      (joinPath directory name).utf8ByteSize < TreePath.bytesLimit ∧ path.child name = joined := by
  rw [ofString?_joinPath hdirectory hname]
  split
  next hlong => exact iff_of_false nofun fun h => absurd h.1 (Nat.not_lt.mpr hlong)
  next hshort => simp [Nat.lt_of_not_le hshort]

theorem locate_joinPath_eq_ok_iff {node : FileNode α} :
    t.locate (joinPath directory name) = .ok (p, node) ↔ t.Reaches path ∧ Fits directory name ∧
      path.destination.child name = p ∧ t.find? p = some node := by
  unfold locate
  constructor
  · intro h
    obtain ⟨_, hread, h⟩ := bind_eq_ok_iff.mp h
    obtain ⟨hshort, rfl⟩ := (ofString?_joinPath_eq_ok_iff hdirectory hname).mp hread
    obtain ⟨q, hwalk, h⟩ := bind_eq_ok_iff.mp h
    obtain ⟨hreaches, hpasses, rfl⟩ := walk_child_eq_ok_iff.mp hwalk
    split at h
    next => cases h
    next hfind =>
      cases h
      exact ⟨hreaches, ⟨hpasses, hshort⟩, rfl, hfind⟩
    next hfind =>
      cases h
      exact ⟨hreaches, ⟨hpasses, hshort⟩, rfl, hfind⟩
  · rintro ⟨hreaches, ⟨hpasses, hshort⟩, rfl, hfind⟩
    refine bind_eq_ok_iff.mpr
      ⟨_, (ofString?_joinPath_eq_ok_iff hdirectory hname).mpr ⟨hshort, rfl⟩, ?_⟩
    refine bind_eq_ok_iff.mpr ⟨_, walk_child_eq_ok_iff.mpr ⟨hreaches, hpasses, rfl⟩, ?_⟩
    rw [hfind]
    cases node <;> rfl

theorem readDeck?_joinPath_eq_some_iff : t.readDeck? (joinPath directory name) = some deck ↔
    t.Reaches path ∧ Fits directory name ∧
      t.find? (path.destination.child name) = some (.deck deck) := by
  have hlocate : t.readDeck? (joinPath directory name) = some deck ↔
      ∃ p, t.locate (joinPath directory name) = .ok (p, .deck deck) := by
    unfold readDeck?
    split
    next p other hother => simp [hother]
    next hother => exact iff_of_false nofun fun ⟨p, hp⟩ => hother p deck hp
  simp only [hlocate, locate_joinPath_eq_ok_iff hdirectory hname, exists_and_left,
    exists_eq_left']

theorem writeDeck_joinPath_eq_ok_iff : t.writeDeck (joinPath directory name) deck = .ok next ↔
    t.Reaches path ∧ Fits directory name ∧
      t.find? (path.destination.child name) ≠ some .directory ∧
      t.put (path.destination.child name) (.deck deck) = next := by
  unfold writeDeck
  constructor
  · intro h
    obtain ⟨_, hread, h⟩ := bind_eq_ok_iff.mp h
    obtain ⟨hshort, rfl⟩ := (ofString?_joinPath_eq_ok_iff hdirectory hname).mp hread
    obtain ⟨result, hresult, h⟩ := bind_eq_ok_iff.mp h
    obtain ⟨hreaches, rfl⟩ := (walkToLast_eq_ok_iff rfl).mp hresult
    obtain ⟨target, htarget, h⟩ := bind_eq_ok_iff.mp h
    obtain ⟨_, hpasses, rfl⟩ := follow_eq_ok_iff.mp htarget
    split at h
    next => cases h
    next hfree =>
      cases h
      exact ⟨hreaches, ⟨hpasses, hshort⟩, hfree, rfl⟩
  · rintro ⟨hreaches, ⟨hpasses, hshort⟩, hfree, rfl⟩
    refine bind_eq_ok_iff.mpr
      ⟨_, (ofString?_joinPath_eq_ok_iff hdirectory hname).mpr ⟨hshort, rfl⟩, ?_⟩
    refine bind_eq_ok_iff.mpr ⟨_, (walkToLast_eq_ok_iff rfl).mpr ⟨hreaches, rfl⟩, ?_⟩
    refine bind_eq_ok_iff.mpr ⟨_, follow_eq_ok_iff.mpr ⟨hreaches.2, hpasses, rfl⟩, ?_⟩
    split
    next hthere => exact absurd hthere hfree
    next => rfl

end Joined

/-! ## A directory -/

/-- A node is a deck in a directory when it lies under a name of it. -/
theorem deckOf?_eq_some_iff {node : Place × FileNode α} :
    deckOf? p node = some (name, deck) ↔ node = (p.child name, .deck deck) := by
  obtain ⟨place, content⟩ := node
  rw [Prod.mk.injEq, Place.eq_child_iff]
  unfold deckOf?
  split
  next other c hname hdeck =>
    dsimp only at hname hdeck
    rw [hname, hdeck]
    split <;> simp_all
  next hnone =>
    exact iff_of_false nofun fun h => hnone name deck h.1.1 h.2

/-- The decks of a directory without one name are those of the tree without what has the name. -/
theorem decks_erase (t : FileTree α) (p : Place) (name : String) :
    (t.erase (p.child name)).nodes.filterMap (deckOf? p) =
      (t.nodes.filterMap (deckOf? p)).filter fun file => file.1 != name := by
  rw [erase, List.filterMap_filter, List.filter_filterMap]
  congr 1
  funext node
  cases hdeck : deckOf? p node with
  | none => simp
  | some file =>
      obtain ⟨other, c⟩ := file
      have hplace : (node.1 != p.child name) = (other != name) := by
        rw [deckOf?_eq_some_iff.mp hdeck, Bool.eq_iff_iff, bne_iff_ne, bne_iff_ne, ne_eq, ne_eq,
          Place.child_inj]
      rw [hplace, Option.filter_some]

theorem decks_put (t : FileTree α) (p : Place) (name : String) (deck : α) :
    (t.put (p.child name) (.deck deck)).nodes.filterMap (deckOf? p) =
      (name, deck) :: (t.nodes.filterMap (deckOf? p)).filter fun file => file.1 != name := by
  rw [put, List.filterMap_cons_some (deckOf?_eq_some_iff.mpr rfl), decks_erase]

/-- A deck takes the place of what has its name, by way of the temporary name. -/
def stored (t : FileTree α) (p : Place) (name : String) (deck : α) : FileTree α :=
  ((t.put (p.child (partialName name)) (.deck deck)).erase (p.child (partialName name))).put
    (p.child name) (.deck deck)

/-- There is room for a deck in a directory: neither its temporary name nor the path to it is too
long, and no directory has one of its names. -/
structure HasRoom (t : FileTree α) (p : Place) (directory name : String) : Prop where
  fits : Fits directory (partialName name)
  free_partial : t.find? (p.child (partialName name)) ≠ some .directory
  free : t.find? (p.child name) ≠ some .directory

/-- A tree takes a deck in when the directory can be made and there is room in it. -/
def Takes (t : FileTree α) (directory name : String) : Prop :=
  ∃ path made, TreePath.ofDirectory? directory = .ok path ∧
    t.makeDirectories (path :: path.above) = .ok made ∧
    made.HasRoom path.destination directory name

theorem ne_partialName (name : String) : name ≠ partialName name := fun h => by
  have hlength := congrArg (fun s => s.toList.length) h
  simp only [Artifact.toList_partialName, List.length_cons, List.length_append] at hlength
  omega

theorem find?_stored {q : Place} : (t.stored p name deck).find? q =
    if q = p.child name then some (.deck deck)
    else if q = p.child (partialName name) then none else t.find? q := by
  rw [stored, find?_put Place.names_child_ne_nil]
  by_cases hname : q = p.child name
  · rw [if_pos hname, if_pos hname]
  · rw [if_neg hname, if_neg hname]
    by_cases hroot : q.names = []
    · have hne : q ≠ p.child (partialName name) := by
        rintro rfl
        exact Place.names_child_ne_nil hroot
      rw [if_neg hne]
      simp [find?, hroot]
    · rw [find?_erase hroot, find?_put Place.names_child_ne_nil]
      split <;> rfl

theorem decks_stored : (t.stored p name deck).nodes.filterMap (deckOf? p) =
    (name, deck) :: ((t.nodes.filterMap (deckOf? p)).filter fun file =>
      file.1 != partialName name).filter fun file => file.1 != name := by
  rw [stored, decks_put, decks_erase, decks_put, List.filter_cons_of_neg (by simp)]
  congr 2
  rw [List.filter_filter]
  simp only [Bool.and_self]

/-- A deck is not put where a directory is, so the directories stay. -/
theorem find?_stored_directory_iff (hroom : t.HasRoom p directory name) {q : Place} :
    (t.stored p name deck).find? q = some .directory ↔ t.find? q = some .directory := by
  rw [find?_stored]
  split
  next hq => simp [hq, hroom.free]
  next =>
    split
    next hq => simp [hq, hroom.free_partial]
    next => rfl

theorem storeDeck_eq_ok_iff (hslash : '/' ∉ name.toList) :
    t.storeDeck directory name (partialName name) deck = .ok next ↔
      ∃ path made, TreePath.ofDirectory? directory = .ok path ∧
        t.makeDirectories (path :: path.above) = .ok made ∧
        made.HasRoom path.destination directory name ∧
        made.stored path.destination name deck = next := by
  have hpartial := Artifact.isComponent_partialName hslash
  -- what has the name is not touched by writing under the temporary one
  have hsame : ∀ (made : FileTree α) (p : Place),
      (made.put (p.child (partialName name)) (.deck deck)).find? (p.child name) =
        made.find? (p.child name) := fun made p =>
    (find?_put Place.names_child_ne_nil).trans
      (if_neg fun h => ne_partialName name (Place.child_inj.mp h))
  unfold storeDeck
  constructor
  · intro h
    obtain ⟨path, hpath, h⟩ := bind_eq_ok_iff.mp h
    obtain ⟨made, hmade, h⟩ := bind_eq_ok_iff.mp h
    obtain ⟨written, hwritten, h⟩ := bind_eq_ok_iff.mp h
    obtain ⟨p, hp, h⟩ := bind_eq_ok_iff.mp h
    obtain rfl := walk_eq_ok hp
    obtain ⟨_, hfits, hfree, rfl⟩ := (writeDeck_joinPath_eq_ok_iff hpath hpartial).mp hwritten
    rw [hsame] at h
    split at h
    next => cases h
    next hfreeName =>
      cases h
      exact ⟨path, made, hpath, hmade, ⟨hfits, hfree, hfreeName⟩, rfl⟩
  · rintro ⟨path, made, hpath, hmade, hroom, rfl⟩
    have hreaches := reaches_of_makeDirectories hmade
    refine bind_eq_ok_iff.mpr ⟨path, hpath, bind_eq_ok_iff.mpr ⟨made, hmade, ?_⟩⟩
    refine bind_eq_ok_iff.mpr ⟨_, (writeDeck_joinPath_eq_ok_iff hpath hpartial).mpr
      ⟨hreaches, hroom.fits, hroom.free_partial, rfl⟩, ?_⟩
    refine bind_eq_ok_iff.mpr ⟨path.destination, ?_, ?_⟩
    · refine walk_mono (fun q hq => ?_) hreaches.1
      rw [find?_put Place.names_child_ne_nil, if_neg, hq]
      rintro rfl
      exact hroom.free_partial hq
    · rw [hsame]
      split
      next hthere => exact absurd hthere hroom.free
      next => rfl

theorem exists_storeDeck_iff (hslash : '/' ∉ name.toList) :
    (∃ next, t.storeDeck directory name (partialName name) deck = .ok next) ↔
      t.Takes directory name := by
  simp only [storeDeck_eq_ok_iff hslash, Takes]
  constructor
  · rintro ⟨next, path, made, hpath, hmade, hroom, _⟩
    exact ⟨path, made, hpath, hmade, hroom⟩
  · rintro ⟨path, made, hpath, hmade, hroom⟩
    exact ⟨_, path, made, hpath, hmade, hroom, rfl⟩

/-! ## A directory before and after -/

section Step

variable (hslash : '/' ∉ name.toList)
  (hstore : t.storeDeck directory name (partialName name) deck = .ok next)
include hslash hstore

/-- What a tree takes into a directory it takes still when something has been stored there. -/
theorem takes_storeDeck_iff : next.Takes directory other ↔ t.Takes directory other := by
  obtain ⟨path, made, hpath, hmade, hroom, rfl⟩ := (storeDeck_eq_ok_iff hslash).mp hstore
  -- the directory is there now, so it is not made again
  have hreaches : (made.stored path.destination name deck).Reaches path :=
    (reaches_of_makeDirectories hmade).mono fun q hq => (find?_stored_directory_iff hroom).mpr hq
  have hsame : (made.stored path.destination name deck).HasRoom path.destination directory other ↔
      made.HasRoom path.destination directory other := by
    constructor
    · rintro ⟨hfits, hpartial, hname⟩
      exact ⟨hfits, mt (find?_stored_directory_iff hroom).mpr hpartial,
        mt (find?_stored_directory_iff hroom).mpr hname⟩
    · rintro ⟨hfits, hpartial, hname⟩
      exact ⟨hfits, mt (find?_stored_directory_iff hroom).mp hpartial,
        mt (find?_stored_directory_iff hroom).mp hname⟩
  constructor
  · rintro ⟨_, _, hpath', hmade', hroom'⟩
    obtain rfl := Except.ok.inj (hpath.symm.trans hpath')
    obtain rfl := Except.ok.inj ((hreaches.makeDirectories_eq _).symm.trans hmade')
    exact ⟨path, made, hpath, hmade, hsame.mp hroom'⟩
  · rintro ⟨_, _, hpath', hmade', hroom'⟩
    obtain rfl := Except.ok.inj (hpath.symm.trans hpath')
    obtain rfl := Except.ok.inj (hmade.symm.trans hmade')
    exact ⟨path, _, hpath, hreaches.makeDirectories_eq _, hsame.mpr hroom'⟩

theorem decksIn_storeDeck : next.decksIn directory =
    (name, deck) :: ((t.decksIn directory).filter fun file => file.1 != partialName name).filter
      fun file => file.1 != name := by
  obtain ⟨path, made, hpath, hmade, _, rfl⟩ := (storeDeck_eq_ok_iff hslash).mp hstore
  unfold decksIn
  rw [hpath]
  dsimp only
  rw [decks_stored, (extends_of_makeDirectories hmade).decks]

/-- What has been stored is read. -/
theorem readDeck?_storeDeck (hname : IsComponent name) :
    next.readDeck? (joinPath directory name) = some deck := by
  obtain ⟨path, made, hpath, hmade, hroom, rfl⟩ := (storeDeck_eq_ok_iff hslash).mp hstore
  refine (readDeck?_joinPath_eq_some_iff hpath hname).mpr ⟨?_, hroom.fits.of_partialName, ?_⟩
  · exact (reaches_of_makeDirectories hmade).mono fun q hq =>
      (find?_stored_directory_iff hroom).mpr hq
  · exact find?_stored.trans (if_pos rfl)

/-- What is read under another name stays what it is. -/
theorem readDeck?_storeDeck_of_ne {content : α} (hother : IsComponent other) (hname : other ≠ name)
    (hpartial : other ≠ partialName name)
    (hread : t.readDeck? (joinPath directory other) = some content) :
    next.readDeck? (joinPath directory other) = some content := by
  obtain ⟨path, made, hpath, hmade, hroom, rfl⟩ := (storeDeck_eq_ok_iff hslash).mp hstore
  have hextends := extends_of_makeDirectories hmade
  obtain ⟨hreaches, hfits, hdeck⟩ := (readDeck?_joinPath_eq_some_iff hpath hother).mp hread
  refine (readDeck?_joinPath_eq_some_iff hpath hother).mpr
    ⟨hreaches.mono fun q hq => ?_, hfits, ?_⟩
  · exact (find?_stored_directory_iff hroom).mpr (hextends.keeps q _ hq)
  · rw [find?_stored, if_neg (mt Place.child_inj.mp hname), if_neg (mt Place.child_inj.mp hpartial)]
    exact hextends.keeps _ _ hdeck

end Step

end FileTree

end SlideDeck
