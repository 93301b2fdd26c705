import SlideDeck.Content.Metric

/-! # Content from outlines

Plain text and light markup are read line by line. The first line is the title;
headings, and lines that end in a colon, open a section; all other lines belong to
the section that is open, and bullets among them are its items as well. Figures in
the lines become data points, and the title of a section tells its type.
-/

namespace SlideDeck.Outline

/-- The text behind a bullet or a number with a point or parenthesis. -/
def bullet? (line : List Char) : Option (List Char) :=
  let behind : Option (List Char) :=
    match line with
    | c :: rest =>
      if c == '-' || c == '*' || c == '•' then some rest
      else
        match line.takeWhile Text.isDigit, line.dropWhile Text.isDigit with
        | _ :: _, mark :: rest => if mark == '.' || mark == ')' then some rest else none
        | _, _ => none
    | [] => none
  behind.bind fun rest =>
    let text := rest.dropWhile Text.isBlank
    if text.length < rest.length && !text.isEmpty then some (Text.trimChars text) else none

/-- The text behind one to six number signs. -/
def marked? (line : List Char) : Option (List Char) :=
  let marks := (line.takeWhile (· == '#')).length
  let rest := line.drop marks
  let text := rest.dropWhile Text.isBlank
  if 1 ≤ marks ∧ marks ≤ 6 ∧ text.length < rest.length ∧ !text.isEmpty then
    some (Text.trimChars text)
  else none

/-- The title of a document in its first line. -/
def titleOf (line : List Char) : List Char := (marked? line).getD (Text.trimChars line)

/-- The title of the section that a line opens. -/
def heading? (line : List Char) : Option (List Char) :=
  match marked? line with
  | some title => some title
  | none =>
    match line.reverse with
    | ':' :: front =>
      let title := Text.trimChars front.reverse
      if title.isEmpty || (bullet? line).isSome then none else some title
    | _ => none

/-- One line of a document. -/
inductive Line
  | heading (title : String)
  | item (text : String)
  | plain (text : String)
deriving DecidableEq, Repr

/-- What a line without outer blanks is. -/
def Line.of (line : List Char) : Line :=
  match heading? line with
  | some title => .heading (String.ofList title)
  | none =>
    match bullet? line with
    | some text => .item (String.ofList text)
    | none => .plain (String.ofList line)

/-- The lines of a text that are not blank, without outer blanks. -/
def linesOf (text : String) : List (List Char) :=
  ((Text.splitOn '\n' text.toList).map Text.trimChars).filter fun line => !line.isEmpty

/-! ## The type of a section -/

/-- A phrase stands at the beginning of a text, in any letter case, and ends at a
word boundary. -/
def beginsWith (phrase : List Char) (text : List Char) : Bool :=
  let front := text.take phrase.length
  front.map Text.foldCase == phrase &&
    Text.isWordBoundary front.getLast? (text.drop phrase.length).head?

/-- One of some phrases occurs in a text as whole words, in any letter case. -/
def mentionsAny (phrases : List String) (text : String) : Bool :=
  go none text.toList
where
  /-- Walks the text with the character in front. -/
  go (before : Option Char) : List Char → Bool
    | [] => false
    | c :: rest =>
      (Text.isWordBoundary before (some c) &&
        phrases.any fun phrase => beginsWith phrase.toList (c :: rest)) || go (some c) rest

/-- The words that mark a timeline. -/
def timelineWords : List String :=
  ["timeline", "roadmap", "milestone", "milestones", "schedule", "phase", "phases"]

/-- The words that mark a comparison. -/
def comparisonWords : List String :=
  ["vs", "vs.", "versus", "compare", "compared", "comparison", "before and after",
    "pros and cons", "tradeoff", "tradeoffs", "trade-off", "trade-offs"]

/-- The words that mark a process. -/
def processWords : List String :=
  ["process", "steps", "workflow", "procedure", "how to", "approach"]

/-- The words that mark a framework. -/
def frameworkWords : List String :=
  ["swot", "framework", "pillar", "pillars", "matrix", "model", "strategy"]

/-- The type of a section: data with two data points or more, else what its title
mentions first in this order. -/
def sectionType (title : String) (dataPoints : Nat) : SectionType :=
  if 2 ≤ dataPoints then .data
  else if mentionsAny timelineWords title then .timeline
  else if mentionsAny comparisonWords title then .comparison
  else if mentionsAny processWords title then .process
  else if mentionsAny frameworkWords title then .framework
  else .narrative

/-! ## Sections -/

/-- The text of a line of a section. -/
def Line.text : Line → String
  | .heading text | .item text | .plain text => text

/-- The item that a line is. -/
def Line.item? : Line → Option String
  | .item text => some text
  | _ => none

/-- The section of a title and lines. Sections of data are protected. -/
def sectionOf (title : String) (lines : List Line) : Section :=
  let dataPoints := lines.filterMap fun line => Metric.ofLine? line.text
  let type := sectionType title dataPoints.length
  { title := title
    type := type
    content := "\n".intercalate (lines.map Line.text)
    dataPoints := dataPoints
    items := lines.filterMap Line.item?
    priority := if type = .data then 4 else 3 }

/-- The sections of some lines, with the title and the lines of the one that is open,
last line first. -/
def sectionsFrom (title : String) : (opened : List Line) → List Line → List Section
  | opened, [] => [sectionOf title opened.reverse]
  | opened, .heading next :: rest =>
    sectionOf title opened.reverse :: sectionsFrom next [] rest
  | opened, line :: rest => sectionsFrom title (line :: opened) rest

/-- The title of a section that no heading opens. -/
def overview : String := "Overview"

/-- The sections of the lines behind the title. Without any, the title is the only
line of the only section. -/
def sections (title : String) : List Line → List Section
  | [] => [sectionOf overview [.plain title]]
  | .heading first :: rest => sectionsFrom first [] rest
  | lines => sectionsFrom overview [] lines

/-- The content of a text; a text without any characters but blanks has none. -/
def parse? (text : String) : Option Content :=
  match linesOf text with
  | [] => none
  | first :: rest =>
    let title := String.ofList (titleOf first)
    some ⟨title, sections title (rest.map Line.of)⟩

end SlideDeck.Outline
