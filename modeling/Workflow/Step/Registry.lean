import Workflow.Step.Kind
import Workflow.Json.Basic

/-!
# The registry of step fields

For every kind of step: the label under which it is offered, and its fields in the order in which
they are written. A field has a kind, which says how it is edited and which values it takes, a
default for when it is absent, and constraints. An editor draws its forms from this table and the
compiler checks and completes steps against it.
-/

namespace Workflow

/-- How a field is edited. All but integers hold text. -/
inductive FieldKind where
  | text
  | multiline
  | integer
  | expression
deriving DecidableEq, Repr

/-- The name of a field kind in a description. -/
def FieldKind.name : FieldKind → String
  | .text => "text"
  | .multiline => "multiline"
  | .integer => "integer"
  | .expression => "expression"

/-- The value of a field that is absent. -/
inductive FieldDefault where
  | text (value : String)
  | integer (value : Int)
deriving DecidableEq, Repr

/-- A default as a field value. -/
def FieldDefault.toJson : FieldDefault → Json
  | .text value => .string value
  | .integer value => Json.integer value

/-- What a field must satisfy beyond its kind. -/
structure FieldConstraints where
  /-- The least value of an integer field. -/
  min : Option Int := none
  /-- Whether the field names another step of the same workflow. -/
  referencesStep : Bool := false
deriving DecidableEq, Repr

/-- The contract of one field. -/
structure FieldSpec where
  name : String
  kind : FieldKind
  default : FieldDefault
  constraints : FieldConstraints := {}
deriving DecidableEq, Repr

/-- The contract of a kind of step. -/
structure StepDescriptor where
  kind : StepKind
  label : String
  /-- In the order in which they are written. -/
  fields : List FieldSpec
deriving DecidableEq, Repr

namespace FieldSpec

/-- A line of text. -/
def text (name default : String) : FieldSpec :=
  ⟨name, .text, .text default, {}⟩

/-- Text over several lines. -/
def multiline (name default : String) : FieldSpec :=
  ⟨name, .multiline, .text default, {}⟩

/-- A whole number with a least value. -/
def integer (name : String) (default min : Int) : FieldSpec :=
  ⟨name, .integer, .integer default, { min := some min }⟩

/-- A condition to evaluate. -/
def expression (name default : String) : FieldSpec :=
  ⟨name, .expression, .text default, {}⟩

/-- The name of another step, none by default. -/
def stepReference (name : String) : FieldSpec :=
  ⟨name, .text, .text "", { referencesStep := true }⟩

end FieldSpec

namespace StepKind

/-- The service that steps call unless told otherwise. -/
def defaultService : String := "cbi-service"

/-- The label under which a kind is offered. -/
def label : StepKind → String
  | serviceCall => "Service Call"
  | scheduleTask => "Schedule Task"
  | dataProcessing => "Data Processing"
  | notification => "Notification"
  | condition => "Condition"
  | graphqlCall => "GraphQL Call"
  | delay => "Delay"
  | externalEvent => "External Event"

/-- The fields of a kind. -/
def fields : StepKind → List FieldSpec
  | serviceCall => [.text "service" defaultService, .text "endpoint" "/api/cbi/rest/1"]
  | scheduleTask => [.text "task" "data-processing", .text "cron" "0 0 12 * * ?"]
  | dataProcessing => [.text "processingType" "DEFAULT", .integer "batchSize" 100 1]
  | notification =>
    [.text "notificationType" "email", .multiline "message" "Workflow completed successfully"]
  | condition =>
    [.expression "condition" "context.flag == true", .stepReference "trueStep",
      .stepReference "falseStep"]
  | graphqlCall =>
    [.text "service" defaultService,
      .multiline "query" "query \x7b countries \x7b code name \x7d \x7d"]
  | delay => [.integer "delayMs" 1000 0]
  | externalEvent => [.text "eventType" "WORKFLOW_EVENT"]

/-- The contract of a kind. -/
def descriptor (kind : StepKind) : StepDescriptor :=
  ⟨kind, kind.label, kind.fields⟩

end StepKind

namespace StepDescriptor

/-- The contracts of all kinds, in palette order. -/
def all : List StepDescriptor :=
  StepKind.all.map StepKind.descriptor

/-- The contract of the kind with a given tag. -/
def ofTag? (tag : String) : Option StepDescriptor :=
  (StepKind.ofTag? tag).map StepKind.descriptor

/-- The field with a given name. -/
def field? (descriptor : StepDescriptor) (name : String) : Option FieldSpec :=
  descriptor.fields.find? fun spec => spec.name = name

end StepDescriptor

/-! ## Descriptions -/

/-- Constraints as they are described: only those that constrain. -/
def FieldConstraints.toJson (constraints : FieldConstraints) : Json :=
  .object <|
    (constraints.min.toList.map fun min => ("min", Json.integer min)) ++
    (if constraints.referencesStep then [("references_step", .bool true)] else [])

/-- A field as it is described. -/
def FieldSpec.toJson (spec : FieldSpec) : Json :=
  .object [("name", .string spec.name), ("kind", .string spec.kind.name),
    ("default", spec.default.toJson), ("constraints", spec.constraints.toJson)]

/-- A kind of step as it is described. -/
def StepDescriptor.toJson (descriptor : StepDescriptor) : Json :=
  .object [("kind", .string descriptor.kind.tag), ("display_label", .string descriptor.label),
    ("fields", .array (descriptor.fields.map FieldSpec.toJson))]

end Workflow
