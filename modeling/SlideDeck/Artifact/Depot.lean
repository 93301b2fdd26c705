import SlideDeck.Artifact.Shelf
import SlideDeck.Files.Tree

/-! # Depots

A depot keeps what is stored in it under the names of artifacts and gives it back by the
locations of these names. A shelf is one, and so is a directory of a tree of files.
-/

namespace SlideDeck

/-- A place for artifacts of which `σ` is the state. -/
structure Depot (σ α : Type) where
  /-- Stores an artifact and gives its location. -/
  store : (requestId contentType : String) → α → StateM σ (Except SinkError String)
  /-- The location of a name. -/
  location : String → String
  /-- The artifact at a location. -/
  get? : σ → String → Option α
  /-- The artifacts by their names. -/
  files : σ → List (String × α)

variable {σ α : Type}

/-- The number of artifacts. -/
def Depot.size (d : Depot σ α) (s : σ) : Nat := (d.files s).length

/-- Artifacts on a shelf. -/
def Shelf.depot : Depot (Shelf α) α where
  store requestId contentType content := fun s =>
    match s.store requestId contentType content with
    | .ok (name, next) => (.ok (location name), next)
    | .error e => (.error e, s)
  location := location
  get? := Shelf.get?
  files := files

/-- Artifacts in a directory, which is made where it is missing. -/
def FileTree.depot (directory : String) : Depot (FileTree α) α where
  store := FileTree.access.storeArtifact directory
  location := joinPath directory
  get? := readDeck?
  files t := t.decksIn directory

end SlideDeck
