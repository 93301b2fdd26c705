import SlideDeck.Files.Basic
import SlideDeck.Text.Blank

/-! # Paths

A path starts at the top of all directories or where a program runs, and is walked one
step after another: into a name, back to the directory above, or nowhere. A place is what
a walk ends at. Its names are counted from the root of a tree of files, from a directory
above that root, or from the top, so two places that are equal are one place.
-/

namespace SlideDeck

/-- One step of a path. -/
inductive PathStep
  | stay
  | back
  | enter (name : String)
deriving DecidableEq, Repr

/-- The step that a piece of a path stands for. -/
def PathStep.ofPiece (piece : String) : PathStep :=
  if piece = "." then .stay else if piece = ".." then .back else .enter piece

/-- A directory that is there without being in a tree. -/
inductive Base
  /-- The directory that holds all others. -/
  | top
  /-- The directory so many levels above the root of the tree; at none it is the root. -/
  | above (levels : Nat)
deriving DecidableEq, Repr

/-- A place by the names that lead to it from a base. -/
structure Place where
  base : Base
  names : List String
deriving DecidableEq, Repr

namespace Place

/-- The root of the tree. -/
def root : Place := ⟨.above 0, []⟩

/-- The directory that a place lies in; the top lies in itself. -/
def parent (p : Place) : Place :=
  match p.names, p.base with
  | [], .top => ⟨.top, []⟩
  | [], .above levels => ⟨.above (levels + 1), []⟩
  | names, base => ⟨base, names.dropLast⟩

/-- What a directory has under a name. -/
def child (p : Place) (name : String) : Place := { p with names := p.names ++ [name] }

/-- Where a step leads from a directory. -/
def after (p : Place) : PathStep → Place
  | .stay => p
  | .back => p.parent
  | .enter name => p.child name

end Place

/-- A path as it is walked. -/
structure TreePath where
  start : Place
  steps : List PathStep
  /-- The path ends in a slash, which asks for a directory. -/
  endsInSlash : Bool

namespace TreePath

/-- The number of bytes from which on a path is too long. -/
def bytesLimit : Nat := 4096

/-- The pieces of the text of a path. Several slashes count as one. -/
def pieces (cs : List Char) : List (List Char) :=
  (Text.splitOn '/' cs).filter fun piece => !piece.isEmpty

/-- Reads the text of a path. -/
def ofString? (text : String) : Except FileFault TreePath :=
  let cs := text.toList
  if cs.isEmpty then .error .notFound
  else if bytesLimit ≤ text.utf8ByteSize then .error .nameTooLong
  else .ok {
    start := if cs.head? = some '/' then ⟨.top, []⟩ else .root
    steps := (pieces cs).map fun piece => .ofPiece (String.ofList piece)
    endsInSlash := cs.getLast? = some '/' }

/-- Reads the text of a path to a directory. The empty one is where a program runs. -/
def ofDirectory? (text : String) : Except FileFault TreePath :=
  if text.toList.isEmpty then .ok ⟨.root, [], false⟩ else ofString? text

/-- Where a path ends when all of its steps are taken. -/
def destination (path : TreePath) : Place := path.steps.foldl Place.after path.start

/-- The steps up to and with the last one that leads somewhere. -/
def strip (steps : List PathStep) : List PathStep :=
  (steps.reverse.dropWhile fun s => s == .stay).reverse

/-- The paths to the directory that the end of a path lies in and to those above it, the
innermost first. -/
def above (path : TreePath) : List TreePath :=
  let steps := (strip path.steps).dropLast
  let ends := (List.range (steps.length + 1)).reverse.map fun n => steps.take n
  (ends.filter fun s => s != [] && strip s == s).map fun s => ⟨path.start, s, false⟩

end TreePath

end SlideDeck
