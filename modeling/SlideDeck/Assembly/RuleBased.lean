import SlideDeck.Assembly.Conforming
import SlideDeck.Assembly.Trimming

/-! # Assembly by rules

Without usable proposals a deck is a cover, a slide for each section and a closing
slide. Sections are matched against components of the category that their type is
routed to; what no component can show becomes text.
-/

namespace SlideDeck

/-- A slide before it has a position. -/
structure Slide where
  component : Component
  data : Json

namespace Candidate

/-- The slide of a candidate. -/
def slide (c : Candidate) : Slide := ⟨c.component, c.data⟩

end Candidate

namespace Anchors

/-- The slide of a section as text. -/
def textSlide (a : Anchors) (s : Section) : Slide :=
  ⟨a.narrative, a.textPayload s.title s.content s.items⟩

/-- The cover: one with figures if there are any and the style allows it, else one
without, else text. -/
def cover (a : Anchors) (content : Content) (style : Style) : Slide × List AssemblyWarning :=
  let covers := a.usable.filter Component.isCover
  let material := Material.ofCover content
  let stats :=
    if material.dataPoints.isEmpty ∨ style = .minimal then []
    else Candidate.ranked (covers.filter Component.isStatsCover) material "stats"
  let plain :=
    Candidate.ranked (covers.filter fun c => !c.isStatsCover) material "minimal"
  match stats.head?.or plain.head? with
  | some best => (best.slide, [])
  | none => (⟨a.narrative, a.textPayload content.title "" []⟩, [.coverFallback])

/-- The closing slide, if a component can show it. -/
def closing? (a : Anchors) : Option Slide :=
  (Candidate.ranked (a.pool .closing) Material.closing "closing").head?.map Candidate.slide

/-- How often the component of the last slide has been used in a row; the last slide
comes first. -/
def runLength : List Slide → Nat
  | [] => 0
  | last :: earlier =>
    1 + (earlier.takeWhile fun s => s.component.id == last.component.id).length

/-- A component would follow itself too often. -/
def isWornOut (slides : List Slide) (id : String) : Bool :=
  (slides.head?.any fun last => last.component.id == id) && maxRepeats ≤ runLength slides

/-- The slide of a section behind some slides, the last of which comes first. -/
def choose (a : Anchors) (slides : List Slide) (s : Section) (candidates : List Candidate) :
    Slide × List AssemblyWarning :=
  match candidates with
  | [] => (a.textSlide s, [.sectionFallback s.title])
  | best :: others =>
    if isWornOut slides best.component.id then
      match others with
      | next :: _ => (next.slide, [])
      | [] =>
        if a.narrative.id != best.component.id then (a.textSlide s, [])
        else (best.slide, [.repetition best.component.id])
    else (best.slide, [])

/-- The candidates for a section. -/
def candidates (a : Anchors) (table : SelectionTable) (s : Section) : List Candidate :=
  Candidate.ranked (a.pool (table.category s.type)) (Material.ofSection s) s.type.affinityTag

/-- The slides of sections behind some slides; the last slide comes first. -/
def sectionSlides (a : Anchors) (table : SelectionTable) :
    List Slide → List Section → List Slide × List AssemblyWarning
  | slides, [] => (slides, [])
  | slides, s :: rest =>
    let (slide, warnings) := a.choose slides s (a.candidates table s)
    let (all, more) := a.sectionSlides table (slide :: slides) rest
    (all, warnings ++ more)

/-- The blueprint of some slides. -/
def blueprintOf (slides : List Slide) : Blueprint :=
  slides.foldl (fun b s => b.push s.component s.data) .empty

/-- The slides for content of which some sections are kept, with all warnings but the one
about their number. -/
def ruleSlides (a : Anchors) (table : SelectionTable) (content : Content) (style : Style)
    (kept : List Section) : List Slide × List AssemblyWarning :=
  let closing := a.closing?
  let (cover, coverWarnings) := a.cover content style
  let (slides, warnings) := a.sectionSlides table [cover] kept
  let closingWarnings := if closing.isSome then [] else [.noClosing]
  (slides.reverse ++ closing.toList, coverWarnings ++ warnings ++ closingWarnings)

/-- The blueprint that the rules give for content. -/
def ruleBased (a : Anchors) (table : SelectionTable) (content : Content) (p : Parameters) :
    Blueprint × List AssemblyWarning :=
  let kept := trimSections content.sections p.slideCount a.closing?.isSome
  let (slides, warnings) := a.ruleSlides table content p.style kept
  (blueprintOf slides, warnings ++ slideCountWarning p.slideCount slides.length)

end Anchors

end SlideDeck
