import SlideDeck.Assembly.Conforming

/-! # Reconciling of proposals

Proposed slides are validated, repaired or replaced by text, one for one and in the
order of their positions. Protected sections that no slide mentions are put back. If
not a single proposal survives there is nothing to reconcile.
-/

namespace SlideDeck

mutual

/-- A text satisfies a test somewhere in a value. -/
def Json.anyText (test : String → Bool) : Json → Bool
  | .string s => test s
  | .array items => Json.anyTextOfItems test items
  | .object members => Json.anyTextOfMembers test members
  | _ => false

def Json.anyTextOfItems (test : String → Bool) : List Json → Bool
  | [] => false
  | j :: rest => j.anyText test || Json.anyTextOfItems test rest

def Json.anyTextOfMembers (test : String → Bool) : List (String × Json) → Bool
  | [] => false
  | (_, j) :: rest => j.anyText test || Json.anyTextOfMembers test rest

end

/-- The string that a member of a value is. -/
def Json.text? (name : String) (j : Json) : Option String :=
  match j.member? name with
  | some (.string s) => some s
  | _ => none

/-- A text carries a section: it is its title, or contains its body. -/
def Section.carriedBy (s : Section) (text : String) : Bool :=
  let title := Text.trim s.title
  let body := Text.trim s.content
  (!title.isEmpty && Text.trim text == title) || (!body.isEmpty && Text.occursIn body text)

/-- A payload mentions a section. A section that is blank needs no mention. -/
def Section.mentionedIn (s : Section) (data : Json) : Bool :=
  (Text.isBlankText s.title && Text.isBlankText s.content) || data.anyText s.carriedBy

namespace Anchors

/-- The slide of text that stands in for a proposal: its own title and content if it
has any, else those of the section it stands for. -/
def replacement (a : Anchors) (content : Content) (position : Nat) (proposed : ProposedSlide) :
    BlueprintEntry :=
  let related := if position = 0 then none else content.sections[position - 1]?
  let title := ((proposed.data.text? "title").or (related.map (·.title))).getD content.title
  let body := ((proposed.data.text? "content").or (related.map (·.content))).getD ""
  let items := related.elim [] (·.items)
  .of position a.narrative (a.textPayload title body items)

/-- What has become of some proposals. -/
structure Reconciled where
  entries : List BlueprintEntry
  warnings : List AssemblyWarning
  /-- How many proposals are slides of the component that they name. -/
  accepted : Nat

/-- Settles one proposal. -/
def settle (a : Anchors) (content : Content) (position : Nat) (proposed : ProposedSlide) :
    Reconciled :=
  let id := proposed.componentId
  let replaced (reason : String) : AssemblyWarning := .replacedEntry position id reason
  match a.usable.find? fun c => c.id == id with
  | none => {
      entries := [a.replacement content position proposed]
      warnings := [.unknownComponent position id, replaced "component not available"]
      accepted := 0 }
  | some c =>
    match c.conform proposed.data with
    | .valid data => ⟨[.of position c data], [], 1⟩
    | .repaired data dropped =>
      ⟨[.of position c data], [.repairedEntry position c.id dropped], 1⟩
    | .invalid reason => ⟨[a.replacement content position proposed], [replaced reason], 0⟩

/-- Settles proposals for the positions from a number on. -/
def settleAll (a : Anchors) (content : Content) : Nat → List ProposedSlide → Reconciled
  | _, [] => ⟨[], [], 0⟩
  | position, proposed :: rest =>
    let first := a.settle content position proposed
    let others := a.settleAll content (position + 1) rest
    ⟨first.entries ++ others.entries, first.warnings ++ others.warnings,
      first.accepted + others.accepted⟩

/-- The place in front of the last closing slide, or behind all slides. -/
def restorePlace (a : Anchors) (entries : List BlueprintEntry) : Nat :=
  match entries.reverse.findIdx? fun e => a.isClosing e.componentId with
  | some i => entries.length - 1 - i
  | none => entries.length

/-- Puts back the protected sections that no slide mentions. -/
def restore (a : Anchors) : List BlueprintEntry → List Section →
    List BlueprintEntry × List AssemblyWarning
  | entries, [] => (entries, [])
  | entries, s :: rest =>
    if !s.isProtected || entries.any fun e => s.mentionedIn e.data then a.restore entries rest
    else
      let place := a.restorePlace entries
      let entry := BlueprintEntry.of place a.narrative (a.textPayload s.title s.content s.items)
      let (all, warnings) := a.restore (entries.insertIdx place entry) rest
      (all, .restoredSection s.title :: warnings)

/-- The first component that is used more often in a row than is preferred. -/
def repeated? : List String → Option String
  | a :: b :: c :: rest => if a == b && b == c then some a else repeated? (b :: c :: rest)
  | _ => none

/-- The slides of proposals, unless none of them survives, with all warnings but the one
about their number. -/
def reconciledSlides (a : Anchors) (content : Content) (proposal : Proposal) :
    Option (List BlueprintEntry × List AssemblyWarning) :=
  let proposed := proposal.entries.mergeSort fun x y => x.position ≤ y.position
  let settled := a.settleAll content 0 proposed
  if settled.accepted = 0 then none
  else
    let (entries, restored) := a.restore settled.entries content.sections
    let ids := entries.map (·.componentId)
    let repetition := (repeated? ids).toList.map .repetition
    let closing := if ids.any a.isClosing then [] else [.noClosing]
    some (entries, settled.warnings ++ restored ++ repetition ++ closing)

/-- The blueprint of proposals, unless none of them survives. -/
def reconcile (a : Anchors) (content : Content) (p : Parameters) (proposal : Proposal) :
    Option (Blueprint × List AssemblyWarning) :=
  (a.reconciledSlides content proposal).map fun (entries, warnings) =>
    (Blueprint.densify ⟨entries⟩,
      warnings ++ slideCountWarning p.slideCount entries.length)

end Anchors

end SlideDeck
