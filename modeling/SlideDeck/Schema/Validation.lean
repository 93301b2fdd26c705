import SlideDeck.Schema.Basic
import SlideDeck.Text.Order

/-! # Validation of payloads

Validation lists what a payload violates: that it is no record, the required
members that are missing, and every place where a member departs from its shape. A
policy decides whether departures from the shape reject the payload; the other two
always do.
-/

namespace SlideDeck.Schema

/-- What a violation is about. -/
inductive ViolationKind
  | notARecord
  | missingField
  | shape
deriving DecidableEq, Repr

/-- How much a violation weighs. -/
inductive Severity
  | error
  | warning
deriving DecidableEq, Repr

/-- One departure of a payload from its schema. -/
structure Violation where
  kind : ViolationKind
  severity : Severity
  /-- The member of the payload that the violation belongs to. -/
  field : Option String
  path : String
  message : String
  expected : Option String
  actual : Option String
deriving DecidableEq, Repr

/-- How departures from the shape are treated. -/
inductive Policy
  | lenient
  | strict
deriving DecidableEq, Repr

/-- The policy of a name. -/
def Policy.ofName? : String → Option Policy
  | "lenient" => some .lenient
  | "strict" => some .strict
  | _ => none

/-- The outcome of a validation. -/
structure Report where
  valid : Bool
  missingFields : List String
  violations : List Violation
deriving DecidableEq, Repr

/-- A payload has to be a record. -/
def recordViolations (payload : Json) : List Violation :=
  match payload with
  | .object _ => []
  | _ => [{
      kind := .notARecord
      severity := .error
      field := none
      path := "$"
      message := "Payload must be a structured record"
      expected := some "object"
      actual := some payload.kind.name }]

/-- The violation of a required member that is missing. -/
def missingField (name : String) : Violation where
  kind := .missingField
  severity := .error
  field := some name
  path := "$." ++ name
  message := "Required field is missing"
  expected := some "present"
  actual := some "absent"

/-- A record has to have the required members. -/
def requiredViolations (s : Schema) : Json → List Violation
  | .object members =>
    (s.required.filter fun name => (members.lookup name).isNone).map missingField
  | _ => []

/-- A departure from the shape at a path inside a member. -/
def shapeViolation (field path message : String) (expected actual : Option String) :
    Violation where
  kind := .shape
  severity := .warning
  field := some field
  path := path
  message := message
  expected := expected
  actual := actual

/-- An array has to have as many items as the bounds ask for. -/
def countViolations (field path : String) (minItems maxItems : Option Nat) (count : Nat) :
    List Violation :=
  (match minItems with
    | some least =>
      if count < least then
        [shapeViolation field path "Too few items" (some s!">= {least}") (some s!"{count}")]
      else []
    | none => []) ++
  (match maxItems with
    | some most =>
      if most < count then
        [shapeViolation field path "Too many items" (some s!"<= {most}") (some s!"{count}")]
      else []
    | none => [])

mutual

/-- Where a value departs from the shape of a schema. A value of the wrong kind is
not looked into. -/
def shapeViolations (field path : String) : Schema → Json → List Violation
  | ⟨type, required, properties, items, minItems, maxItems⟩, value =>
    match type.filter fun t => !t.admits value with
    | some t => [shapeViolation field path "Type mismatch" (some t.name) (some value.kind.name)]
    | none =>
      match value with
      | .array values =>
        countViolations field path minItems maxItems values.length ++
          itemViolations field path items values
      | .object members =>
        ((required.filter fun name => (members.lookup name).isNone).map fun name =>
          shapeViolation field path "Nested required field is missing" (some name) none) ++
          memberViolations field path properties members
      | _ => []

/-- Where the items of an array depart from the shape of their schema. -/
def itemViolations (field path : String) : Option Schema → List Json → List Violation
  | none, _ => []
  | some s, values =>
    values.zipIdx.flatMap fun (value, i) => shapeViolations field s!"{path}[{i}]" s value

/-- Where the members of an object depart from the shapes of their schemas. -/
def memberViolations (field path : String) :
    List (String × Schema) → List (String × Json) → List Violation
  | [], _ => []
  | (name, s) :: rest, members =>
    (match members.lookup name with
      | some value => shapeViolations field (path ++ "." ++ name) s value
      | none => []) ++ memberViolations field path rest members

end

/-- Where the members of a payload depart from the shapes that a schema states. -/
def propertyViolations (s : Schema) : Json → List Violation
  | .object members =>
    s.properties.flatMap fun (name, shape) =>
      match members.lookup name with
      | some value => shapeViolations name ("$." ++ name) shape value
      | none => []
  | _ => []

/-- The strict policy turns departures from the shape into errors. -/
def Policy.weigh (policy : Policy) (v : Violation) : Violation :=
  if policy = .strict ∧ v.kind = .shape then { v with severity := .error } else v

/-- All violations of a payload under a policy. -/
def violations (policy : Policy) (s : Schema) (payload : Json) : List Violation :=
  (recordViolations payload ++ requiredViolations s payload ++
    propertyViolations s payload).map policy.weigh

/-- Some violation rejects the payload. -/
def rejects (vs : List Violation) : Bool := vs.any fun v => v.severity == .error

/-- Validates a payload. -/
def validate (policy : Policy) (s : Schema) (payload : Json) : Report :=
  let found := s.violations policy payload
  { valid := !rejects found
    missingFields := (found.filter fun v => v.kind == .missingField).filterMap (·.field)
    violations := found }

/-- A payload is accepted without reservation. -/
def accepts (s : Schema) (payload : Json) : Bool := (s.validate .strict payload).valid

namespace Report

/-- Some violation rejects the payload. -/
def hasErrors (r : Report) : Bool := rejects r.violations

/-- The members that depart from their shapes, in ascending order. -/
def shapeFields (r : Report) : List String :=
  Text.sortedSet ((r.violations.filter fun v => v.kind == .shape).filterMap (·.field))

/-- The errors in one line. -/
def summary (r : Report) : String :=
  "; ".intercalate <|
    (r.violations.filter fun v => v.severity == .error).map fun v => s!"{v.path}: {v.message}"

end Report

/-! ## JSON forms -/

/-- The rule that a violation breaks. -/
def ViolationKind.rule : ViolationKind → String
  | .notARecord => "record"
  | .missingField => "required"
  | .shape => "shape"

/-- The name of a kind of violations. -/
def ViolationKind.name : ViolationKind → String
  | .notARecord => "not_a_record"
  | .missingField => "missing_field"
  | .shape => "shape"

/-- The name of a severity. -/
def Severity.name : Severity → String
  | .error => "error"
  | .warning => "warning"

/-- The JSON form of a violation. -/
def Violation.toJson (v : Violation) : Json :=
  Json.ofMembers [
    ("rule", .string v.kind.rule), ("kind", .string v.kind.name),
    ("severity", .string v.severity.name), ("field", Json.ofOption v.field .string),
    ("path", .string v.path), ("message", .string v.message),
    ("expected", Json.ofOption v.expected .string),
    ("actual", Json.ofOption v.actual .string)]

/-- The JSON form of a report. -/
def Report.toJson (r : Report) : Json :=
  Json.ofMembers [
    ("valid", .bool r.valid), ("missing_fields", .ofStrings r.missingFields),
    ("violations", .array (r.violations.map Violation.toJson))]

end SlideDeck.Schema
