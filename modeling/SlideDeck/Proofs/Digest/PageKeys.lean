import SlideDeck.Proofs.Digest.RenderKeys
import SlideDeck.Proofs.Document.Isolation
import SlideDeck.Proofs.Program.Instructions
import SlideDeck.Proofs.Theme.Storage

/-!
# What the key of a page determines

The key of a page is made of its program, its payload, the theme and the engine, and gives these
back. The page depends on its schema and the engine that it asks for as well, but only through the
question whether it is admitted to rendering at all. A literal that is not finite is written like
a member that is missing, so programs with such literals share their keys.
-/

namespace SlideDeck

namespace Sha256

theorem digest_ne_nil (message : List UInt8) : digest message ≠ [] := by
  unfold digest
  rw [List.flatMap_cons, bigEndian_succ]
  exact List.cons_ne_nil _ _

theorem hex_ne_empty (message : List UInt8) : hex message ≠ "" := by
  unfold hex hexText
  obtain ⟨first, rest, hdigest⟩ := List.exists_cons_of_ne_nil (digest_ne_nil message)
  rw [hdigest]
  intro hempty
  have hchars := congrArg String.toList hempty
  rw [String.toList_ofList] at hchars
  cases hchars

end Sha256

/-- Programs of finite literals are told apart by their forms. -/
theorem RenderProgram.eq_of_toJson_eq {p q : RenderProgram} (hp : p.HasFiniteLiterals)
    (hq : q.HasFiniteLiterals) (h : p.toJson = q.toJson) : p = q := by
  have hdecode := decode_toJson hp
  rw [h, decode_toJson hq] at hdecode
  exact (Option.some.inj hdecode).symm

namespace PageSpec

variable {spec spec' : PageSpec} {limits : ExecutionLimits} {theme theme' : Theme}

/-! ## Admission -/

/-- The engine is as new as the page asks for and the payload has what the schema requires. -/
structure Admitted (spec : PageSpec) : Prop where
  engine : checkEngine spec.engineMinVersion = .ok ()
  payload : checkPayload spec.schema spec.data = .ok ()

/-- The drawing of a page that is admitted is that of its program. -/
theorem Admitted.draw_eq (h : spec.Admitted) :
    spec.draw limits theme = spec.program.execute ⟨limits, theme, spec.data⟩ := by
  rw [draw, h.engine, h.payload]
  rfl

theorem exists_error_of_not_admitted (h : ¬ spec.Admitted) (limits : ExecutionLimits)
    (theme : Theme) : ∃ e, spec.draw limits theme = .error e := by
  cases hdraw : spec.draw limits theme with
  | error e => exact ⟨e, rfl⟩
  | ok ops =>
      have hdraws := draw_eq_ok_iff.mp hdraw
      exact absurd ⟨checkEngine_eq_ok_iff.mpr hdraws.engine,
        checkPayload_eq_ok_iff.mpr hdraws.payload⟩ h

theorem renderKey_render : (spec.render limits theme).renderKey = spec.key theme := by
  unfold render
  cases spec.draw limits theme <;> rfl

theorem background_render :
    (spec.render limits theme).background = theme.colors.background := by
  unfold render
  cases spec.draw limits theme <;> rfl

/-! ## Keys -/

/-- The stream of bytes that the key of a page is the digest of. -/
def stream (spec : PageSpec) (theme : Theme) : List UInt8 :=
  renderKeyStream spec.program.toJson spec.data theme.toJson Version.engine.text

/-- The parts that the key of a page covers are ones that a text can hold: the literals of the
program are finite, the payload is in normal form, and the length of each part fits 64 bits. -/
structure Hashable (spec : PageSpec) (theme : Theme) : Prop where
  literals : spec.program.HasFiniteLiterals
  data : spec.data.IsNormal
  lengths : ∀ value ∈ [spec.program.toJson, spec.data, theme.toJson],
    (utf8Bytes value.canonical).length < 2 ^ 64

/-- The key gives back what it has been made of. -/
theorem parts_eq_of_key_eq (h : spec.Hashable theme) (h' : spec'.Hashable theme')
    (hcollide : ¬ Sha256.Collide (spec.stream theme) (spec'.stream theme'))
    (hkey : spec.key theme = spec'.key theme') :
    spec.program = spec'.program ∧ spec.data = spec'.data ∧ theme = theme' := by
  have hstream : spec.stream theme = spec'.stream theme' :=
    (Sha256.eq_or_collide_of_hex_eq hkey).resolve_right hcollide
  have hlengths := List.forall_mem_append.mpr ⟨h.lengths, h'.lengths⟩
  obtain ⟨hprogram, hdata, htheme, _⟩ := segments_eq_of_renderKeyStream_eq hlengths hstream
  refine ⟨?_, ?_, ?_⟩
  · exact RenderProgram.eq_of_toJson_eq h.literals h'.literals
      ((reordered_of_utf8Bytes_eq hprogram).eq_of_isNormal spec.program.isNormal_toJson
        spec'.program.isNormal_toJson)
  · exact (reordered_of_utf8Bytes_eq hdata).eq_of_isNormal h.data h'.data
  · exact Theme.toJson_injective ((reordered_of_utf8Bytes_eq htheme).eq_of_isNormal
      theme.isNormal_toJson theme'.isNormal_toJson)

/-- Pages of one program, payload and theme show the same when both are admitted or none. -/
theorem render_agrees (hprogram : spec.program = spec'.program) (hdata : spec.data = spec'.data)
    (hadmitted : spec.Admitted ↔ spec'.Admitted) :
    (spec.render limits theme).ops = (spec'.render limits theme).ops ∧
      (spec.render limits theme).isPlaceholder = (spec'.render limits theme).isPlaceholder := by
  by_cases hspec : spec.Admitted
  · have hdraw : spec.draw limits theme = spec'.draw limits theme := by
      rw [hspec.draw_eq, (hadmitted.mp hspec).draw_eq, hprogram, hdata]
    unfold render
    rw [hdraw]
    cases spec'.draw limits theme <;> exact ⟨rfl, rfl⟩
  · obtain ⟨e, he⟩ := exists_error_of_not_admitted hspec limits theme
    obtain ⟨e', he'⟩ := exists_error_of_not_admitted (mt hadmitted.mpr hspec) limits theme
    unfold render
    rw [he, he']
    exact ⟨rfl, rfl⟩

/-- Equal keys of the same executor stand for equal programs, payloads and themes, and so for one
background. Where both pages are admitted or none they show the same, and with one schema and one
engine asked for they have the same state, down to the reason of a failure. -/
theorem equal_keys_show_the_same (limits : ExecutionLimits) (spec spec' : PageSpec)
    (theme theme' : Theme) (h : spec.Hashable theme) (h' : spec'.Hashable theme')
    (hcollide : ¬ Sha256.Collide (spec.stream theme) (spec'.stream theme'))
    (hkey : (spec.render limits theme).renderKey = (spec'.render limits theme').renderKey) :
    (spec.program = spec'.program ∧ spec.data = spec'.data ∧ theme = theme') ∧
      (spec.render limits theme).background = (spec'.render limits theme').background ∧
      ((spec.Admitted ↔ spec'.Admitted) →
        (spec.render limits theme).ops = (spec'.render limits theme').ops ∧
          (spec.render limits theme).isPlaceholder = (spec'.render limits theme').isPlaceholder) ∧
      (spec.schema = spec'.schema → spec.engineMinVersion = spec'.engineMinVersion →
        (spec.render limits theme).ops = (spec'.render limits theme').ops ∧
          (spec.render limits theme).status = (spec'.render limits theme').status) := by
  rw [renderKey_render, renderKey_render] at hkey
  obtain ⟨hprogram, hdata, rfl⟩ := parts_eq_of_key_eq h h' hcollide hkey
  refine ⟨⟨hprogram, hdata, rfl⟩, ?_, render_agrees hprogram hdata, fun hschema hengine => ?_⟩
  · rw [background_render, background_render]
  · have hdraw : spec.draw limits theme = spec'.draw limits theme := by
      rw [draw, draw, hprogram, hdata, hschema, hengine]
    unfold render
    rw [hdraw]
    cases spec'.draw limits theme <;> exact ⟨rfl, rfl⟩

/-- A page of an empty payload. -/
def ofEmptyPayload (body : List Instruction) (schema : Schema) (engine : String) : PageSpec where
  position := 0
  componentId := "user.test"
  program := ⟨body⟩
  schema := schema
  engineMinVersion := engine
  data := .object []

/-- A text in a colour, if there is one. -/
def note (color : Option Expr) : Instruction :=
  .text { text := .string "Note", frame := ⟨1, 1, 8, 1⟩, color := color }

theorem hashable_note (schema : Schema) (engine : String) :
    (ofEmptyPayload [note none] schema engine).Hashable .standard := by
  refine ⟨?_, ⟨.nil, trivial⟩, ?_⟩
  · have hall : (RenderProgram.literals ⟨[note none]⟩).all (·.isFinite) = true := by decide
    exact List.all_eq_true.mp hall
  · simp only [length_utf8Bytes]
    change ∀ value ∈ [RenderProgram.toJson ⟨[note none]⟩, .object [], Theme.standard.toJson], _
    decide +kernel

/-- A note with an open schema and one that asks for an earlier engine and a list that it leaves
out have one key and one look. -/
theorem equal_keys_show_the_same_note :
    let spec := ofEmptyPayload [note none] {} "1.0.0"
    let spec' := ofEmptyPayload [note none] { properties := [("items", {})] } "0.9.0"
    (spec.Hashable .standard ∧ spec'.Hashable .standard ∧
      ¬ Sha256.Collide (spec.stream .standard) (spec'.stream .standard) ∧
      (spec.render .standard .standard).renderKey = (spec'.render .standard .standard).renderKey ∧
      (spec.Admitted ↔ spec'.Admitted)) ∧
    (spec.render .standard .standard).ops = (spec'.render .standard .standard).ops ∧
      (spec.render .standard .standard).isPlaceholder =
        (spec'.render .standard .standard).isPlaceholder := by
  intro spec spec'
  have hcollide : ¬ Sha256.Collide (spec.stream .standard) (spec'.stream .standard) :=
    fun h => h.1 rfl
  have hkey : (spec.render .standard .standard).renderKey =
      (spec'.render .standard .standard).renderKey := by
    rw [renderKey_render, renderKey_render]
    rfl
  have hadmitted : spec.Admitted ↔ spec'.Admitted :=
    iff_of_true ⟨by decide, by decide⟩ ⟨by decide, by decide⟩
  have hspec := hashable_note {} "1.0.0"
  have hspec' := hashable_note { properties := [("items", {})] } "0.9.0"
  exact ⟨⟨hspec, hspec', hcollide, hkey, hadmitted⟩,
    (equal_keys_show_the_same .standard spec spec' .standard .standard hspec hspec' hcollide
      hkey).2.2.1 hadmitted⟩

/-! ## What the key leaves out -/

/-- The pages of two specifications with one key that is not empty show the same. -/
def KeyIdentifies (limits : ExecutionLimits) (spec spec' : PageSpec)
    (theme theme' : Theme) : Prop :=
  (spec.render limits theme).renderKey ≠ "" →
  (spec.render limits theme).renderKey = (spec'.render limits theme').renderKey →
  ¬ Sha256.Collide (spec.stream theme) (spec'.stream theme') →
    (spec.render limits theme).ops = (spec'.render limits theme').ops ∧
      (spec.render limits theme).background = (spec'.render limits theme').background ∧
      (spec.render limits theme).isPlaceholder = (spec'.render limits theme').isPlaceholder

/-- One key does not stand for one page where the key is made of the same stream and only one of
the pages is a failure notice. -/
theorem not_keyIdentifies (hstream : spec.stream theme = spec'.stream theme')
    (hstatus : (spec.render limits theme).isPlaceholder ≠
      (spec'.render limits theme').isPlaceholder) :
    ¬ KeyIdentifies limits spec spec' theme theme' := by
  intro h
  refine hstatus (h ?_ ?_ fun hcollide => hcollide.1 hstream).2.2
  · rw [renderKey_render]
    exact Sha256.hex_ne_empty _
  · rw [renderKey_render, renderKey_render]
    exact congrArg Sha256.hex hstream

/-- The key is blind to a schema that the payload does not match, to an engine that is not there
yet, and to a literal that is no number. -/
theorem key_leaves_out_schema_engine_and_nan :
    ¬ KeyIdentifies .standard (ofEmptyPayload [] {} "1.0.0")
        (ofEmptyPayload [] { required := ["title"] } "1.0.0") .standard .standard ∧
      ¬ KeyIdentifies .standard (ofEmptyPayload [] {} "1.0.0") (ofEmptyPayload [] {} "2.0.0")
        .standard .standard ∧
      ¬ KeyIdentifies .standard (ofEmptyPayload [note none] {} "1.0.0")
        (ofEmptyPayload [note (some (.number (0 / 0)))] {} "1.0.0") .standard .standard := by
  refine ⟨not_keyIdentifies rfl (by decide), not_keyIdentifies rfl (by decide),
    not_keyIdentifies rfl (by decide)⟩

end PageSpec

end SlideDeck
