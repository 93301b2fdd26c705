import SlideDeck.Artifact.Basic

/-! # Shelves

A shelf keeps artifacts by their names. Storing under a name that is taken replaces
what is there. A location is a name behind the scheme `memory://`, and the name alone
is a location too.
-/

namespace SlideDeck

/-- Artifacts by their names; a name occurs once. -/
structure Shelf (α : Type) where
  files : List (String × α)

namespace Shelf

variable {α : Type}

/-- A shelf without artifacts. -/
def empty : Shelf α := ⟨[]⟩

/-- The number of artifacts. -/
def size (s : Shelf α) : Nat := s.files.length

/-- The artifact of a name. -/
def find? (s : Shelf α) (name : String) : Option α := s.files.lookup name

/-- Puts an artifact under a name. -/
def put (s : Shelf α) (name : String) (content : α) : Shelf α :=
  ⟨(name, content) :: s.files.filter fun file => file.1 != name⟩

/-- What locations start with. -/
def scheme : String := "memory://"

/-- The location of a name. -/
def location (name : String) : String := scheme ++ name

/-- The name of a location. -/
def nameOf (location : String) : String :=
  if scheme.toList.isPrefixOf location.toList then
    String.ofList (location.toList.drop scheme.length)
  else location

/-- The artifact of a location. -/
def get? (s : Shelf α) (location : String) : Option α := s.find? (nameOf location)

/-- Stores an artifact and gives the name under which it is kept. -/
def store (s : Shelf α) (requestId contentType : String) (content : α) :
    Except SinkError (String × Shelf α) := do
  let name ← Artifact.name requestId contentType
  return (name, s.put name content)

end Shelf

end SlideDeck
