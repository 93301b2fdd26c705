import SlideDeck.Content.Basic

/-! # Figures in texts

Reads the number in a text such as `$2,500` or `-12%`: the first run of digits,
points, commas and minus signs, less the commas, if what is left is a decimal.
-/

namespace SlideDeck.Figure

/-- The characters that a figure can begin with. -/
def isStart (c : Char) : Bool := Text.isAsciiDigit c || c == '-' || c == '.'

/-- The characters that a figure can go on with. -/
def isPart (c : Char) : Bool := isStart c || c == ','

/-- The first run of a figure in a text, less its commas. The minus sign of
typography counts as a hyphen. -/
def run (text : List Char) : List Char :=
  ((((text.map fun c => if c = '−' then '-' else c).dropWhile fun c => !isStart c).takeWhile
    isPart).filter fun c => c != ',')

/-- A decimal without a sign: digits with at most one point among them. -/
def decimal? (negative : Bool) (cs : List Char) : Option Float :=
  let whole := cs.takeWhile Text.isAsciiDigit
  let fraction :=
    match cs.dropWhile Text.isAsciiDigit with
    | [] => some []
    | c :: rest => if c = '.' ∧ rest.all Text.isAsciiDigit then some rest else none
  match fraction with
  | none => none
  | some fraction =>
    if whole.isEmpty && fraction.isEmpty then none
    else some <|
      Binary64.ofDecimal negative (Text.natOfDigits (whole ++ fraction)) (-fraction.length)

/-- The double nearest to the number that a text begins with, infinite where that
number is too great. -/
def leading? (text : String) : Option Float :=
  match run text.toList with
  | '-' :: rest => decimal? true rest
  | cs => decimal? false cs

end SlideDeck.Figure

namespace SlideDeck.DataPoint

/-- The number of the value. -/
def numericValue? (p : DataPoint) : Option Float := Figure.leading? p.value

/-- The number of the change. -/
def changeValue? (p : DataPoint) : Option Float := p.change.bind Figure.leading?

/-- The direction of the change: down with a hyphen in front, up with any other text,
and none without one. -/
def trend (p : DataPoint) : Int :=
  match (p.change.getD "").toList.dropWhile Text.isBlank with
  | [] => 0
  | '-' :: _ => -1
  | _ => 1

end SlideDeck.DataPoint
