/-! # Blanks, lines and words

Blanks are the characters with the Unicode property `White_Space`. Texts are cut
at them as lists of characters; the string forms wrap the list forms.
-/

namespace SlideDeck.Text

/-- The characters with the Unicode property `White_Space`. -/
def isBlank (c : Char) : Bool :=
  let n := c.toNat
  (9 ≤ n && n ≤ 13) || n == 0x20 || n == 0x85 || n == 0xA0 || n == 0x1680 ||
    (0x2000 ≤ n && n ≤ 0x200A) || n == 0x2028 || n == 0x2029 || n == 0x202F ||
    n == 0x205F || n == 0x3000

/-- The characters from the first one on that fails a test, seen from the end. -/
def dropWhileEnd (p : Char → Bool) (cs : List Char) : List Char :=
  (cs.reverse.dropWhile p).reverse

/-- The characters between the outer blanks. -/
def trimChars (cs : List Char) : List Char := dropWhileEnd isBlank (cs.dropWhile isBlank)

/-- The text between the outer blanks. -/
def trim (s : String) : String := String.ofList (trimChars s.toList)

/-- A text of blanks only. -/
def isBlankText (s : String) : Bool := s.toList.all isBlank

/-- The pieces between the occurrences of a separator; there is always one. -/
def splitOn (sep : Char) : List Char → List (List Char)
  | [] => [[]]
  | c :: cs =>
    if c = sep then [] :: splitOn sep cs
    else
      match splitOn sep cs with
      | [] => [[c]]
      | piece :: rest => (c :: piece) :: rest

/-- The maximal runs of characters that are no blanks. -/
def wordsOf (cs : List Char) : List (List Char) :=
  go cs []
where
  /-- Walks the text with the word that is being read, last character first. -/
  go : List Char → List Char → List (List Char)
    | [], [] => []
    | [], word => [word.reverse]
    | c :: cs, word =>
      if isBlank c then
        match word with
        | [] => go cs []
        | _ => word.reverse :: go cs []
      else go cs (c :: word)

/-- The first part up to a character and the part after it, if it occurs. -/
def splitFirst (sep : Char) : List Char → Option (List Char × List Char)
  | [] => none
  | c :: cs =>
    if c = sep then some ([], cs)
    else (splitFirst sep cs).map fun (before, after) => (c :: before, after)

/-- The text after the first occurrence of a pattern, with the text before it. -/
def splitFirstOn (pattern : List Char) : List Char → Option (List Char × List Char)
  | [] => if pattern.isEmpty then some ([], []) else none
  | c :: cs =>
    if pattern.isPrefixOf (c :: cs) then some ([], (c :: cs).drop pattern.length)
    else (splitFirstOn pattern cs).map fun (before, after) => (c :: before, after)

/-- A pattern occurs in a text. -/
def occursIn (pattern text : String) : Bool :=
  (splitFirstOn pattern.toList text.toList).isSome

end SlideDeck.Text
