import SlideDeck.Content.Basic
import SlideDeck.Text.Word

/-! # Metrics in lines

A line such as `Revenue $2.5M (+23%)` or `Margin: 18%` states a metric: a label, a
value in a currency or with a unit, and perhaps a change in parentheses.
-/

namespace SlideDeck.Metric

/-- The signs of currencies that are known. -/
def isCurrency (c : Char) : Bool := c == '$' || c == '€' || c == '£'

/-- The characters that end a label. -/
def endsLabel (c : Char) : Bool := isCurrency c || Text.isDigit c || c == '('

/-- The characters between the digits of a value. -/
def isFigureChar (c : Char) : Bool := Text.isDigit c || c == ',' || c == '.'

/-- The characters that stand between a label and its value. -/
def isSeparator (c : Char) : Bool := c == ':' || c == '=' || c == '-' || c == '–'

/-- A digit and the figure that it begins, with the rest. -/
def figure? : List Char → Option (List Char × List Char)
  | c :: cs =>
    if Text.isDigit c then some (c :: cs.takeWhile isFigureChar, cs.dropWhile isFigureChar)
    else none
  | [] => none

/-- One blank, if there is one. -/
def blank? : List Char → List Char × List Char
  | c :: cs => if Text.isBlank c then ([c], cs) else ([], c :: cs)
  | [] => ([], [])

/-- The letter of a magnitude behind an amount, perhaps with an `n`. -/
def amountSuffix : List Char → List Char × List Char
  | c :: cs =>
    if ['K', 'M', 'B', 'k', 'm', 'b'].contains c then
      match cs with
      | 'n' :: rest => ([c, 'n'], rest)
      | _ => ([c], cs)
    else ([], c :: cs)
  | [] => ([], [])

/-- An amount in a currency: `$2.5M`, `€ 3bn`. -/
def amount? : List Char → Option (List Char × List Char)
  | c :: cs =>
    if isCurrency c then do
      let (figure, cs) ← figure? cs
      let (gap, cs) := blank? cs
      let (suffix, rest) := amountSuffix cs
      return (c :: (figure ++ gap ++ suffix), rest)
    else none
  | [] => none

/-- A unit that ends at a word boundary: `K`, `M`, `B`, or `bn` and `mm`, perhaps
after a blank. -/
def unit? (cs : List Char) : Option (List Char × List Char) :=
  let ends (last : Char) (rest : List Char) : Bool :=
    Text.isWordBoundary (some last) rest.head?
  let single :=
    match cs with
    | c :: rest => if ['K', 'M', 'B'].contains c && ends c rest then some ([c], rest) else none
    | [] => none
  let (gap, behind) := blank? cs
  let double :=
    match behind with
    | 'b' :: 'n' :: rest => if ends 'n' rest then some (gap ++ ['b', 'n'], rest) else none
    | 'm' :: 'm' :: rest => if ends 'm' rest then some (gap ++ ['m', 'm'], rest) else none
    | _ => none
  single.or double

/-- A figure with a percent sign or a unit: `18%`, `40K`, `3 bn`. -/
def quantity? (cs : List Char) : Option (List Char × List Char) := do
  let (figure, cs) ← figure? cs
  match cs with
  | '%' :: rest => return (figure ++ ['%'], rest)
  | _ =>
    let (unit, rest) ← unit? cs
    return (figure ++ unit, rest)

/-- A change in parentheses behind a value: `(+23%)`, `(-0.4 % since May)`. -/
def change? (cs : List Char) : Option (List Char) :=
  match cs.dropWhile Text.isBlank with
  | '(' :: cs => do
    let (sign, cs) :=
      match cs with
      | c :: rest => if ['+', '-', '−'].contains c then ([c], rest) else ([], cs)
      | [] => ([], [])
    let (figure, cs) ← figure? cs
    let (gap, cs) := blank? cs
    let (percent, rest) :=
      match cs with
      | '%' :: rest => (['%'], rest)
      | _ => ([], cs)
    if rest.contains ')' then some (sign ++ figure ++ gap ++ percent) else none
  | _ => none

/-- The label in front of a value: at least one character, less the blanks and the
separator behind it. -/
def labelOf : List Char → List Char
  | [] => []
  | first :: rest =>
    let tail := rest.reverse.dropWhile Text.isBlank
    let tail :=
      match tail with
      | c :: more => if isSeparator c then more.dropWhile Text.isBlank else tail
      | [] => []
    let label := Text.trimChars (first :: tail.reverse)
    Text.trimChars (Text.dropWhileEnd (fun c => c == ':' || c == '-' || c == '=') label)

/-- The metric that a line states. -/
def ofLine? (line : String) : Option DataPoint := do
  let cs := line.toList
  let front := cs.takeWhile fun c => !endsLabel c
  let behind := cs.dropWhile fun c => !endsLabel c
  if front.isEmpty then none
  else
    let (value, rest) ← (amount? behind).or (quantity? behind)
    let label := labelOf front
    if label.isEmpty then none
    else
      return {
        label := String.ofList label
        value := String.ofList (Text.trimChars value)
        change := (change? rest).map fun change =>
          String.ofList (Text.trimChars (change.map fun c => if c = '−' then '-' else c)) }

end SlideDeck.Metric
