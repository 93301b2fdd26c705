import SlideDeck.Document.Composing
import SlideDeck.Library.Narratives
import SlideDeck.Proofs.Render.Lockstep.Instructions
import SlideDeck.Proofs.Schema.Violations
import SlideDeck.Proofs.Text.Order
import SlideDeck.Proofs.Text.Pieces

/-!
# What a render can see of its data

A program that never takes the data as a whole sees only the members that its list of
data keys names. Two payloads that agree on these give the same drawing or the same
failure; and since a component reads what it requires, they also pass or fail the check
of the payload together.
-/

namespace SlideDeck

/-- A path of one segment is that segment. -/
theorem Expr.eq_of_segments_eq_singleton {path head : String} (h : segments path = [head]) :
    path = head := by
  obtain ⟨piece, hsplit, hpiece⟩ := List.map_eq_singleton_iff.mp h
  rw [← hpiece, ← Text.eq_of_splitOn_eq_singleton hsplit, String.ofList_toList]

/-- Two records hold the same under every name of a list, or lack it both. -/
def AgreeOnKeys (keys : List String) (left right : List (String × Json)) : Prop :=
  ∀ key ∈ keys, left.lookup key = right.lookup key

instance (keys : List String) (left right : List (String × Json)) :
    Decidable (AgreeOnKeys keys left right) :=
  inferInstanceAs (Decidable (∀ key ∈ keys, left.lookup key = right.lookup key))

namespace RunInput

variable {limits : ExecutionLimits} {theme : Theme} {left right : List (String × Json)}

theorem root?_congr (data other : Json) {name : String} (hname : name ≠ "data") :
    (RunInput.mk limits theme data).root? name = (RunInput.mk limits theme other).root? name := by
  unfold root?
  split
  next => rfl
  next => exact absurd rfl hname
  next => rfl
  next => rfl

/-- A path into the data reads one member; every other path reads no data at all. -/
theorem resolve_congr {path : String} (hwhole : path ≠ "data")
    (hkey : ∀ key, RenderProgram.dataKey? path = some key → left.lookup key = right.lookup key)
    (scopes : List Scope) :
    (RunInput.mk limits theme (.object left)).resolve scopes path =
      (RunInput.mk limits theme (.object right)).resolve scopes path := by
  unfold resolve
  cases hsegments : Expr.segments path with
  | nil => rfl
  | cons head rest =>
      dsimp only
      -- a binding of the program hides the inputs, whatever they are
      cases hbound : Scope.find? scopes head with
      | some value => rfl
      | none =>
          simp only [Option.none_or]
          by_cases hhead : head = "data"
          · subst hhead
            cases rest with
            | nil => exact absurd (Expr.eq_of_segments_eq_singleton hsegments) hwhole
            | cons key more =>
                have hlookup := hkey key (by simp only [RenderProgram.dataKey?, hsegments])
                simp only [root?, Json.follow, Json.step?, hlookup]
          · rw [root?_congr (.object left) (.object right) hhead]

end RunInput

namespace RenderProgram

theorem mem_dataKeys {p : RenderProgram} {path key : String} (hpath : path ∈ p.paths)
    (hkey : dataKey? path = some key) : key ∈ p.dataKeys :=
  Text.mem_sortedSet.mpr (List.mem_filterMap.mpr ⟨path, hpath, hkey⟩)

/-- The drawing of a program, or its failure, is the same for payloads that agree on the
data keys. -/
theorem execute_congr {p : RenderProgram} {left right : List (String × Json)}
    (hwhole : "data" ∉ p.paths) (hagree : AgreeOnKeys p.dataKeys left right)
    (limits : ExecutionLimits) (theme : Theme) :
    p.execute ⟨limits, theme, .object left⟩ = p.execute ⟨limits, theme, .object right⟩ := by
  have hshadows : RunInput.Shadows False ⟨limits, theme, .object left⟩
      ⟨limits, theme, .object right⟩ p.paths := by
    refine ⟨.inl rfl, rfl, ?_⟩
    intro path hpath scopes
    refine RunInput.resolve_congr (fun heq => hwhole (heq ▸ hpath)) ?_ scopes
    intro key hkey
    exact hagree key (mem_dataKeys hpath hkey)
  exact (p.execute_match hshadows).resolve_right fun hstop => hstop.1

end RenderProgram

/-- A component that passes its contract reads every member that it requires. -/
theorem Component.required_subset_dataKeys {c : Component} (h : c.checkContract = .ok ()) :
    c.dataSchema.required ⊆ c.renderProgram.dataKeys := by
  unfold checkContract at h
  split at h
  next => cases h
  next hread =>
    intro field hfield
    have hcontains := List.find?_eq_none.mp hread field hfield
    simpa using hcontains

namespace PageSpec

/-- The check of a payload looks at required members only, and only whether they are
there. -/
theorem checkPayload_congr {s : Schema} {left right : List (String × Json)}
    (hagree : AgreeOnKeys s.required left right) :
    checkPayload s (.object left) = checkPayload s (.object right) := by
  have hrequired : s.requiredViolations (.object left) = s.requiredViolations (.object right) := by
    simp only [Schema.requiredViolations]
    congr 1
    apply List.filter_congr
    intro name hname
    rw [hagree name hname]
  have hrecord : Schema.recordViolations (.object left) =
      Schema.recordViolations (.object right) := rfl
  obtain ⟨hvalid, hsummary⟩ := Schema.validate_lenient_congr hrecord hrequired
  simp only [checkPayload, hvalid, hsummary]

end PageSpec

/-- A program without the path `data` draws the same, or fails the same, for payloads
that agree on its data keys. The pages of a component that passes its contract then
differ in the render key at most, whether they show the drawing or a failure. -/
theorem render_congr_of_agreeOnKeys (left right : List (String × Json))
    (limits : ExecutionLimits) (theme : Theme) :
    (∀ p : RenderProgram, "data" ∉ p.paths → AgreeOnKeys p.dataKeys left right →
      p.execute ⟨limits, theme, .object left⟩ = p.execute ⟨limits, theme, .object right⟩) ∧
    ∀ (c : Component) (position : Nat), c.checkContract = .ok () →
      "data" ∉ c.renderProgram.paths → AgreeOnKeys c.renderProgram.dataKeys left right →
      let spec data := (BlueprintEntry.of position c data).pageSpec (Snapshot.of c)
      (spec (.object right)).render limits theme =
        { (spec (.object left)).render limits theme with
          renderKey := (spec (.object right)).key theme } := by
  constructor
  · intro p hwhole hagree
    exact p.execute_congr hwhole hagree limits theme
  · intro c position hcontract hwhole hagree spec
    have hrequired : AgreeOnKeys c.dataSchema.required left right :=
      fun key hkey => hagree key (Component.required_subset_dataKeys hcontract hkey)
    have hdraw : (spec (.object left)).draw limits theme =
        (spec (.object right)).draw limits theme := by
      change (PageSpec.checkEngine c.engineMinVersion >>= fun _ =>
          PageSpec.checkPayload c.dataSchema (.object left) >>= fun _ =>
            c.renderProgram.execute ⟨limits, theme, .object left⟩) =
        (PageSpec.checkEngine c.engineMinVersion >>= fun _ =>
          PageSpec.checkPayload c.dataSchema (.object right) >>= fun _ =>
            c.renderProgram.execute ⟨limits, theme, .object right⟩)
      rw [PageSpec.checkPayload_congr hrequired,
        c.renderProgram.execute_congr hwhole hagree limits theme]
    unfold PageSpec.render
    rw [hdraw]
    cases (spec (.object right)).draw limits theme <;> rfl

/-- The payload of a slide of text. -/
def plainNarrative : List (String × Json) :=
  [("content", .string "Costs fell in every region."), ("title", .string "Costs")]

/-- The same payload with a remark that no program reads. -/
def remarkedNarrative : List (String × Json) :=
  [("content", .string "Costs fell in every region."), ("remark", .bool true),
    ("title", .string "Costs")]

theorem render_congr_of_remark :
    AgreeOnKeys Library.fullTextNarrative.renderProgram.dataKeys plainNarrative
      remarkedNarrative ∧
    Library.fullTextNarrative.renderProgram.execute
        ⟨.standard, .standard, .object plainNarrative⟩ =
      Library.fullTextNarrative.renderProgram.execute
        ⟨.standard, .standard, .object remarkedNarrative⟩ ∧
    let spec data := (BlueprintEntry.of 1 Library.fullTextNarrative data).pageSpec
      (Snapshot.of Library.fullTextNarrative)
    (spec (.object remarkedNarrative)).render .standard .standard =
      { (spec (.object plainNarrative)).render .standard .standard with
        renderKey := (spec (.object remarkedNarrative)).key .standard } := by
  have hagree : AgreeOnKeys Library.fullTextNarrative.renderProgram.dataKeys plainNarrative
      remarkedNarrative := by decide
  have hwhole : "data" ∉ Library.fullTextNarrative.renderProgram.paths := by decide
  have hcontract : Library.fullTextNarrative.checkContract = .ok () := by rfl
  have hrender := render_congr_of_agreeOnKeys plainNarrative remarkedNarrative .standard .standard
  exact ⟨hagree, hrender.1 _ hwhole hagree, hrender.2 _ 1 hcontract hwhole hagree⟩

end SlideDeck
