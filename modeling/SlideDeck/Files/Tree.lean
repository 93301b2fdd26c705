import SlideDeck.Files.Path

/-! # Trees of files

A tree of files is a list of what there is by its place. A path is walked through the
directories that it names: each of them has to be there, also one that the next step
leaves again. Outside of the tree there are the directories above its root and nothing
else. A file is a text or a deck.
-/

namespace SlideDeck

/-- What lies at a place. -/
inductive FileNode (α : Type)
  | text (text : String)
  | deck (deck : α)
  | directory

/-- Files and directories by their places. Bases are not in the list. -/
structure FileTree (α : Type) where
  nodes : List (Place × FileNode α)

namespace FileTree

variable {α : Type}

/-- The tree with nothing but its root. -/
def empty : FileTree α := ⟨[]⟩

/-- What lies at a place. -/
def find? (t : FileTree α) (p : Place) : Option (FileNode α) :=
  if p.names.isEmpty then some .directory else t.nodes.lookup p

/-- The tree without what lies at a place. -/
def erase (t : FileTree α) (p : Place) : FileTree α := ⟨t.nodes.filter fun n => n.1 != p⟩

/-- Puts something at a place. -/
def put (t : FileTree α) (p : Place) (node : FileNode α) : FileTree α :=
  ⟨(p, node) :: (t.erase p).nodes⟩

/-! ## Walking -/

/-- The greatest number of bytes in a name. -/
def maxNameBytes : Nat := 255

/-- Takes a step from a place, which has to be a directory. -/
def follow (t : FileTree α) (p : Place) (s : PathStep) : Except FileFault Place :=
  match t.find? p, s with
  | none, _ => .error .notFound
  | some .directory, .enter name =>
    if maxNameBytes < name.utf8ByteSize then .error .nameTooLong else .ok (p.child name)
  | some .directory, s => .ok (p.after s)
  | some _, _ => .error .notDirectory

/-- The place at the end of a path, where there may be nothing yet. -/
def walk (t : FileTree α) (path : TreePath) : Except FileFault Place :=
  path.steps.foldlM t.follow path.start

/-- The directory that the end of a path lies in, and the last step. A path without steps
has none. -/
def walkToLast (t : FileTree α) (path : TreePath) :
    Except FileFault (Option (Place × PathStep)) :=
  match path.steps.getLast? with
  | none => .ok none
  | some last => do
    let p ← t.walk { path with steps := path.steps.dropLast }
    let _ ← t.follow p .stay
    return some (p, last)

/-- What lies at the end of a path, with its place. -/
def locate (t : FileTree α) (path : String) : Except FileFault (Place × FileNode α) := do
  let path ← TreePath.ofString? path
  let p ← t.walk path
  match t.find? p with
  | none => throw .notFound
  | some .directory => return (p, .directory)
  | some node => if path.endsInSlash then throw .notDirectory else return (p, node)

/-! ## Reading -/

/-- The text at a path. -/
def readText (t : FileTree α) (path : String) : Except FileFault String := do
  match ← t.locate path with
  | (_, .directory) => throw .isDirectory
  | (_, .text text) => return text
  | (_, .deck _) => throw .notText

/-- The deck at a path. -/
def readDeck? (t : FileTree α) (path : String) : Option α :=
  match t.locate path with
  | .ok (_, .deck deck) => some deck
  | _ => none

/-- An entry of a directory, when a node is one of it. -/
def entryOf? (directory : Place) (node : Place × FileNode α) :
    Option (String × DirectoryEntry) :=
  match node.1.names.getLast? with
  | none => none
  | some name =>
    if node.1.parent = directory then
      match node.2 with
      | .text text => some (name, .file text)
      | _ => some (name, .unreadable)
    else none

/-- What a directory holds. -/
def readDirectory (t : FileTree α) (path : String) : Except FileFault Directory :=
  match t.locate path with
  | .ok (p, .directory) => .ok (t.nodes.filterMap (entryOf? p))
  | .ok _ => .error .notDirectory
  | .error _ => .ok []

/-- The deck that a node is, with its name, when it lies in a directory. -/
def deckOf? (directory : Place) (node : Place × FileNode α) : Option (String × α) :=
  match node.1.names.getLast?, node.2 with
  | some name, .deck deck => if node.1.parent = directory then some (name, deck) else none
  | _, _ => none

/-- The decks that lie in the directory at the end of a path. -/
def decksIn (t : FileTree α) (path : String) : List (String × α) :=
  match TreePath.ofDirectory? path with
  | .ok path => t.nodes.filterMap (deckOf? path.destination)
  | .error _ => []

/-! ## Writing -/

/-- Puts a deck at a path whose directory is there. -/
def writeDeck (t : FileTree α) (path : String) (deck : α) : Except FileFault (FileTree α) := do
  let path ← TreePath.ofString? path
  match ← t.walkToLast path with
  | none => throw .isDirectory
  | some (p, last) =>
    if path.endsInSlash then throw .isDirectory
    let target ← t.follow p last
    match t.find? target with
    | some .directory => throw .isDirectory
    | _ => return t.put target (.deck deck)

/-- Makes the directory at the end of a path, where there may be nothing. -/
def makeDirectory (t : FileTree α) (path : TreePath) : Except FileFault (FileTree α) := do
  match ← t.walkToLast path with
  | some (p, .enter name) =>
    let target ← t.follow p (.enter name)
    if (t.find? target).isSome then throw .alreadyExists
    return t.put target .directory
  | _ => throw .alreadyExists

/-- There is a directory at the end of a path. -/
def isDirectory (t : FileTree α) (path : TreePath) : Bool :=
  match (t.walk path).toOption.bind t.find? with
  | some .directory => true
  | _ => false

/-- Makes the directory at the end of a path if there is none. -/
def demandDirectory (t : FileTree α) (path : TreePath) : Except FileFault (FileTree α) :=
  match t.makeDirectory path with
  | .error fault => if t.isDirectory path then .ok t else .error fault
  | made => made

/-- Makes the directory at the end of the first path. Where one is missing that it lies
in, the others are made before. -/
def makeDirectories (t : FileTree α) : List TreePath → Except FileFault (FileTree α)
  | [] => .ok t
  | path :: above =>
    match t.demandDirectory path with
    | .error .notFound => do (← t.makeDirectories above).demandDirectory path
    | result => result

/-- Puts a deck in a directory that is made where it is missing. It is written under a
temporary name, which may be too long where the name is not, and then takes the place of
what has the name, unless that is a directory. A store that fails on a disk leaves behind
the directories that it has made and what it has written under the temporary name; here it
gives a fault and no tree. -/
def storeDeck (t : FileTree α) (directory name partialName : String) (deck : α) :
    Except FileFault (FileTree α) := do
  let path ← TreePath.ofDirectory? directory
  let t ← t.makeDirectories (path :: path.above)
  let t ← t.writeDeck (joinPath directory partialName) deck
  let p ← t.walk path
  match t.find? (p.child name) with
  | some .directory => throw .isDirectory
  | _ => return (t.erase (p.child partialName)).put (p.child name) (.deck deck)

/-- Adds a file or a directory under some names, with the directories that it lies in. -/
def add (t : FileTree α) (names : List String) (node : FileNode α) : FileTree α :=
  let directories := (List.range (names.length - 1)).map fun n =>
    (⟨.above 0, names.take (n + 1)⟩ : Place)
  let t := directories.foldl (fun t d => if (t.find? d).isSome then t else t.put d .directory) t
  if names.isEmpty then t else t.put ⟨.above 0, names⟩ node

/-- A step that changes the tree. One that fails gives back the tree from before it: what a
disk keeps of a `storeDeck` that fails half way is left out. -/
def change (step : FileTree α → Except FileFault (FileTree α)) :
    StateM (FileTree α) (Except FileFault Unit) := fun t =>
  match step t with
  | .ok next => (.ok (), next)
  | .error fault => (.error fault, t)

/-- Access to the files of a tree. -/
def access : FileAccess (StateM (FileTree α)) α where
  readText path := fun t => (t.readText path, t)
  readDirectory path := fun t => (t.readDirectory path, t)
  writeDeck path deck := change fun t => t.writeDeck path deck
  storeDeck directory name partialName deck :=
    change fun t => t.storeDeck directory name partialName deck

end FileTree

end SlideDeck
