import SlideDeck.Render.Error
import SlideDeck.Text.Blank
import SlideDeck.Text.Digit

/-! # Configuration

The engine is configured by variables of the environment. A variable that is not set
leaves its default; the first one that is set to something unusable is an error.
-/

namespace SlideDeck

/-- What can be configured. -/
inductive Setting
  | maxSteps
  | maxDrawOps
  | maxLoopItems
  | maxValueBytes
  | parserTimeout
  | mapperTimeout
  | sinkTimeout
  | parallelRender
deriving DecidableEq, Repr

namespace Setting

/-- The variable of a setting. -/
def variableName : Setting → String
  | .maxSteps => "DECKFORGE_MAX_STEPS"
  | .maxDrawOps => "DECKFORGE_MAX_DRAW_OPS"
  | .maxLoopItems => "DECKFORGE_MAX_LOOP_ITEMS"
  | .maxValueBytes => "DECKFORGE_MAX_VALUE_BYTES"
  | .parserTimeout => "DECKFORGE_PARSER_TIMEOUT_MS"
  | .mapperTimeout => "DECKFORGE_MAPPER_TIMEOUT_MS"
  | .sinkTimeout => "DECKFORGE_SINK_TIMEOUT_MS"
  | .parallelRender => "DECKFORGE_PARALLEL_RENDER"

/-- All settings. -/
def all : List Setting := [.maxSteps, .maxDrawOps, .maxLoopItems, .maxValueBytes,
  .parserTimeout, .mapperTimeout, .sinkTimeout, .parallelRender]

/-- What the value of a setting has to be. -/
def expected : Setting → String
  | .maxSteps | .maxDrawOps | .maxLoopItems | .maxValueBytes => "a positive integer"
  | .parserTimeout | .mapperTimeout | .sinkTimeout => "milliseconds"
  | .parallelRender => "a boolean"

end Setting

/-- A setting with an unusable value. -/
structure ConfigurationError where
  setting : Setting
  value : String
deriving DecidableEq, Repr

/-- The message of an error. -/
def ConfigurationError.message (e : ConfigurationError) : String :=
  s!"{e.setting.variableName} must be {e.setting.expected}, got '{e.value}'"

/-- The configuration of the engine; times are in milliseconds. -/
structure Configuration where
  parserTimeout : Nat := 30000
  mapperTimeout : Nat := 60000
  sinkTimeout : Nat := 30000
  limits : ExecutionLimits := ExecutionLimits.standard
  /-- Whether pages may be rendered at the same time. It never changes a page. -/
  parallelRender : Bool := true
deriving DecidableEq, Repr

namespace Configuration

/-- Reads a number of 64 bits, perhaps behind a plus sign, with blanks around it. -/
def readNumber? (text : String) : Option Nat :=
  let chars := Text.trimChars text.toList
  let digits :=
    match chars with
    | '+' :: rest => rest
    | _ => chars
  if digits.isEmpty || !digits.all Text.isAsciiDigit then none
  else
    let n := Text.natOfDigits digits
    if n < UInt64.size then some n else none

/-- Reads a number of 64 bits that is not zero. -/
def readCount? (text : String) : Option Nat := (readNumber? text).filter (0 < ·)

/-- Reads a truth value, in any case and with blanks around it. -/
def readFlag? (text : String) : Option Bool :=
  let word := String.ofList ((Text.trimChars text.toList).map Char.toLower)
  if ["1", "true", "yes", "on"].contains word then some true
  else if ["0", "false", "no", "off"].contains word then some false
  else none

/-- The value of a setting, or its default where the variable is not set. -/
def readSetting {α : Type} (lookup : String → Option String) (setting : Setting)
    (read? : String → Option α) (default : α) : Except ConfigurationError α :=
  match lookup setting.variableName with
  | none => .ok default
  | some value =>
    match read? value with
    | some v => .ok v
    | none => .error ⟨setting, value⟩

/-- The configuration of an environment. The limits are read first. -/
def ofLookup (lookup : String → Option String) : Except ConfigurationError Configuration := do
  let base : Configuration := {}
  let maxSteps ← readSetting lookup .maxSteps readCount? base.limits.maxSteps
  let maxDrawOps ← readSetting lookup .maxDrawOps readCount? base.limits.maxDrawOps
  let maxLoopItems ← readSetting lookup .maxLoopItems readCount? base.limits.maxLoopItems
  let maxValueBytes ← readSetting lookup .maxValueBytes readCount? base.limits.maxValueBytes
  return {
    parserTimeout := ← readSetting lookup .parserTimeout readNumber? base.parserTimeout
    mapperTimeout := ← readSetting lookup .mapperTimeout readNumber? base.mapperTimeout
    sinkTimeout := ← readSetting lookup .sinkTimeout readNumber? base.sinkTimeout
    limits := { base.limits with maxSteps, maxDrawOps, maxLoopItems, maxValueBytes }
    parallelRender := ← readSetting lookup .parallelRender readFlag? base.parallelRender }

end Configuration

end SlideDeck
