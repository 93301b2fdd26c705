import SlideDeck.Text.Blank

/-! # Labelled items

An item such as `Q3: launch` or `Q3 - launch` has a label and a text. Items labelled
with the name of a list, in the plural or the singular, belong to that list.
-/

namespace SlideDeck.Label

/-- The label and the text of an item, cut at the first colon or else at the first
hyphen between blanks. Neither part may be blank. -/
def split? (item : String) : Option (String × String) := do
  let cs := item.toList
  let (head, tail) ← (Text.splitFirst ':' cs).or (Text.splitFirstOn [' ', '-', ' '] cs)
  let head := Text.trimChars head
  let tail := Text.trimChars tail
  if head.isEmpty || tail.isEmpty then none else some (String.ofList head, String.ofList tail)

/-- The form of a word that its plural shares: `ies` becomes `y`, and each `s` at the
end is left off. -/
def singular (word : List Char) : List Char :=
  match word.reverse with
  | 's' :: 'e' :: 'i' :: stem => stem.reverse ++ ['y']
  | _ => Text.dropWhileEnd (· == 's') word

/-- A letter of ASCII in lower case; the Kelvin sign is a capital letter too. -/
def lower (c : Char) : Char := if c.toNat = 0x212A then 'k' else c.toLower

/-- A label names a list. -/
def names (field label : String) : Bool :=
  singular (label.toList.map lower) == singular field.toList

/-- The texts of the items that are labelled with the name of a list, in order. -/
def itemsOf (field : String) (items : List String) : List String :=
  ((items.filterMap split?).filter fun (label, _) => names field label).map (·.2)

/-- A word with a capital letter of ASCII in front. -/
def capitalize (word : String) : String :=
  match word.toList with
  | c :: rest => String.ofList (c.toUpper :: rest)
  | [] => ""

end SlideDeck.Label
