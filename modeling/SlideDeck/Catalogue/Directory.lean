import SlideDeck.Catalogue.Basic
import SlideDeck.Json.Parser

/-! # Directories of components

User components are kept one to a file. Files that are no JSON or no components, and
entries that cannot be read, are passed over.
-/

namespace SlideDeck

/-- What a directory holds under a name. -/
inductive DirectoryEntry
  | file (text : String)
  | unreadable

/-- The entries of a directory by their names. -/
abbrev Directory := List (String × DirectoryEntry)

namespace Directory

/-- A name that ends in `.json` behind something else. -/
def isJsonName (name : String) : Bool :=
  match name.toList.reverse with
  | 'n' :: 'o' :: 's' :: 'j' :: '.' :: _ :: _ => true
  | _ => false

/-- The component of a file; it counts as a user component. -/
def component? : DirectoryEntry → Option Component
  | .file text =>
    ((Json.Draft.parse? text).bind Component.decode).map fun c => { c with origin := .user }
  | .unreadable => none

/-- The components of a directory in the order of the names of their files. -/
def components (d : Directory) : List Component :=
  ((d.filter fun entry => isJsonName entry.1).mergeSort fun a b => a.1 ≤ b.1).filterMap
    fun entry => component? entry.2

end Directory

/-- Adds the components of a directory and counts those that are accepted. -/
def Catalogue.load (k : Catalogue) (d : Directory) : Nat × Catalogue :=
  k.insertUsers d.components

end SlideDeck
