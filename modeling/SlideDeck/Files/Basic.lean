import SlideDeck.Artifact.Basic
import SlideDeck.Catalogue.Directory

/-! # Access to files

The command line reads texts and directories and writes decks. What it does with them
does not depend on where they are kept: access to files is a record of operations over
some effect, which a program fills in with the file system and a theorem with a tree of
files.
-/

namespace SlideDeck

/-- Why a file or a directory cannot be used. -/
inductive FileFault
  | notFound
  | notDirectory
  | isDirectory
  | alreadyExists
  | denied
  /-- A name, or a path as a whole, has too many bytes. -/
  | nameTooLong
  | notText
  | other (reason : String)
deriving DecidableEq, Repr

/-- The message of a fault. -/
def FileFault.message : FileFault → String
  | .notFound => "No such file or directory (os error 2)"
  | .notDirectory => "Not a directory (os error 20)"
  | .isDirectory => "Is a directory (os error 21)"
  | .alreadyExists => "File exists (os error 17)"
  | .denied => "Permission denied (os error 13)"
  | .nameTooLong => "File name too long (os error 36)"
  | .notText => "stream did not contain valid UTF-8"
  | .other reason => reason

/-- What is done with files of which decks have the content `α`. -/
structure FileAccess (m : Type → Type) (α : Type) where
  /-- The text of a file. -/
  readText : String → m (Except FileFault String)
  /-- What a directory holds; nothing, where there is no such directory. -/
  readDirectory : String → m (Except FileFault Directory)
  /-- Puts a deck in a file, which may be there already. -/
  writeDeck : String → α → m (Except FileFault Unit)
  /-- Puts a deck in a directory under a name, by way of a temporary one. The directory
  and those that it lies in are made where they are missing. -/
  storeDeck : (directory name partialName : String) → α → m (Except FileFault Unit)

/-- A name in a directory. The empty path is the directory that a program runs in. -/
def joinPath (directory name : String) : String :=
  match directory.toList.getLast? with
  | none | some '/' => directory ++ name
  | some _ => directory ++ "/" ++ name

/-- Stores an artifact in a directory and gives its path. -/
def FileAccess.storeArtifact {m : Type → Type} [Monad m] {α : Type} (files : FileAccess m α)
    (directory requestId contentType : String) (content : α) : m (Except SinkError String) := do
  match Artifact.name requestId contentType with
  | .error e => return .error e
  | .ok name =>
    match ← files.storeDeck directory name (Artifact.partialName name) content with
    | .error fault => return .error (.writeFailed fault.message)
    | .ok () => return .ok (joinPath directory name)

end SlideDeck
