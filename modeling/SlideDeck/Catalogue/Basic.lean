import SlideDeck.Component.Basic

/-! # The catalogue of components

A catalogue stores components by their ids, each with a counter of its uses. Core
components are replaced all at once or not at all, and keep the counters of the ids
that stay; user components are only ever added. Listings are ordered by category,
name and id, so the order of storage never shows.
-/

namespace SlideDeck

/-- The stored components; the popularity of each is its counter. -/
structure Catalogue where
  components : List Component

/-- Why a catalogue refuses a request. -/
inductive CatalogueError
  | notFound (id : String)
  | empty
  | emptySeed
  | duplicateKey (name : String) (category : Category)
  | duplicateId (id : String)
  | notCore (id : String)
deriving DecidableEq, Repr

/-- The message of a refusal. -/
def CatalogueError.message : CatalogueError → String
  | .notFound id => s!"Component not found: {id}"
  | .empty => "No components available. Run database seed first."
  | .emptySeed => "Refusing to reseed with an empty component set"
  | .duplicateKey name category => s!"Duplicate component {name} in category {category.name}"
  | .duplicateId id => s!"Component id already in use: {id}"
  | .notCore id => s!"Seed component {id} must have CORE origin"

/-- What a reseed has done. -/
structure ReseedReport where
  removed : Nat
  inserted : Nat
deriving DecidableEq, Repr

/-- What a listing is narrowed down to. -/
structure ComponentFilter where
  category : Option Category := none
  isPublic : Option Bool := none
deriving DecidableEq, Repr

/-- A component passes a filter. -/
def ComponentFilter.admits (f : ComponentFilter) (c : Component) : Bool :=
  f.category.all (· == c.category) && f.isPublic.all (· == c.isPublic)

namespace Catalogue

/-- A catalogue without components. -/
def empty : Catalogue := ⟨[]⟩

/-- The component of an id. -/
def find? (k : Catalogue) (id : String) : Option Component :=
  k.components.find? fun c => c.id == id

/-- The component of an id, or the refusal. -/
def get (k : Catalogue) (id : String) : Except CatalogueError Component :=
  match k.find? id with
  | some c => .ok c
  | none => .error (.notFound id)

/-- The order of listings. -/
def comesFirst (a b : Component) : Bool :=
  ((compare a.category.index b.category.index).then <|
    (compare a.name b.name).then (compare a.id b.id)).isLE

/-- The components that pass a filter, in the order of listings. -/
def list (k : Catalogue) (f : ComponentFilter) : List Component :=
  (k.components.filter f.admits).mergeSort comesFirst

/-- The public components; there has to be one. -/
def available (k : Catalogue) : Except CatalogueError (List Component) :=
  match k.list { isPublic := some true } with
  | [] => .error .empty
  | cs => .ok cs

/-- The first component that repeats the id or the natural key of an earlier one. -/
def repetition? : (seen : List Component) → List Component → Option CatalogueError
  | _, [] => none
  | seen, c :: rest =>
    if seen.any fun s => s.id == c.id then some (.duplicateId c.id)
    else if seen.any fun s => s.naturalKey == c.naturalKey then
      some (.duplicateKey c.name c.category)
    else repetition? (c :: seen) rest

/-- Why a set of core components cannot take the place of the stored ones. -/
def seedRefusal? (k : Catalogue) (seed : List Component) : Option CatalogueError :=
  if seed.isEmpty then some .emptySeed
  else
    match seed.find? fun c => c.origin != .core with
    | some c => some (.notCore c.id)
    | none =>
      match repetition? [] seed with
      | some e => some e
      | none =>
        (seed.find? fun c => (k.find? c.id).any fun old => old.origin == .user).map fun c =>
          .duplicateId c.id

/-- A component with the counter of the stored one of its id, if there is one. -/
def keepCounter (k : Catalogue) (c : Component) : Component :=
  match k.find? c.id with
  | some old => { c with popularity := old.popularity }
  | none => c

/-- Replaces all core components, or nothing at all. -/
def replaceCore (k : Catalogue) (seed : List Component) :
    Except CatalogueError (ReseedReport × Catalogue) :=
  match k.seedRefusal? seed with
  | some e => .error e
  | none =>
    let users := k.components.filter fun c => c.origin == .user
    let removed := (k.components.filter fun c => c.origin == .core).length
    .ok (⟨removed, seed.length⟩, ⟨users ++ seed.map k.keepCounter⟩)

/-- Adds a user component whose id and natural key are new. -/
def insertUser (k : Catalogue) (c : Component) : Except CatalogueError Catalogue :=
  if (k.find? c.id).isSome then .error (.duplicateId c.id)
  else if k.components.any fun old => old.naturalKey == c.naturalKey then
    .error (.duplicateKey c.name c.category)
  else .ok ⟨k.components ++ [{ c with origin := .user }]⟩

/-- Counts one more use of a component. The counter has 64 bits. -/
def increment (k : Catalogue) (id : String) : Except CatalogueError (Nat × Catalogue) :=
  match k.find? id with
  | none => .error (.notFound id)
  | some c =>
    let count := (c.popularity + 1) % UInt64.size
    .ok (count, ⟨k.components.map fun other =>
      if other.id == id then { other with popularity := count } else other⟩)

/-- Adds the user components that are accepted and counts them. -/
def insertUsers (k : Catalogue) : List Component → Nat × Catalogue
  | [] => (0, k)
  | c :: rest =>
    match k.insertUser c with
    | .ok next =>
      let (count, last) := next.insertUsers rest
      (count + 1, last)
    | .error _ => k.insertUsers rest

end Catalogue

end SlideDeck
