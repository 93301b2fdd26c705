import SlideDeck.Numeric.Binary64
import SlideDeck.Text.Blank

/-! # Wrapping of text

A text is broken into lines of a given number of characters. A line break of the text
always breaks; within a paragraph a word that no longer fits opens a new line, and
words are never split.
-/

namespace SlideDeck.Pdf

/-- The words of a paragraph filled into lines behind the line that is open. -/
def fillLines (budget : Nat) (line : List Char) : List (List Char) → List (List Char)
  | [] => [line]
  | word :: rest =>
    if line.isEmpty then fillLines budget word rest
    else if budget < line.length + 1 + word.length then
      line :: fillLines budget word rest
    else fillLines budget (line ++ ' ' :: word) rest

/-- The lines of a paragraph; one without words has one empty line. -/
def wrapParagraph (budget : Nat) (paragraph : List Char) : List (List Char) :=
  fillLines budget [] (Text.wordsOf paragraph)

/-- The lines of a text. -/
def wrap (budget : Nat) (text : String) : List String :=
  ((Text.splitOn '\n' text.toList).flatMap (wrapParagraph budget)).map String.ofList

/-- The number of characters of an advance that fit in a width: at least one, and no
limit where characters have no width. -/
def lineBudget (width advance : Float) : Nat :=
  if 0 < advance then max 1 (Binary64.toNat (Binary64.floor (width / advance)))
  else UInt64.size - 1

end SlideDeck.Pdf
