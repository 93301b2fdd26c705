/-! # Ordered sets of texts

A set of texts is a list in ascending order, by code points, without repetitions.
-/

namespace SlideDeck.Text

/-- Puts a text into an ascending list, unless it is there. -/
def insertSorted (text : String) : List String → List String
  | [] => [text]
  | other :: rest =>
    if text < other then text :: other :: rest
    else if text = other then other :: rest
    else other :: insertSorted text rest

/-- The texts of a list in ascending order, each of them once. -/
def sortedSet (texts : List String) : List String := texts.foldr insertSorted []

end SlideDeck.Text
