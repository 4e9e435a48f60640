import Workflow.Step.Registry

/-!
# Compiled steps

A compiled step has a name and does one thing, with every field of that thing filled in. The
fields are written in registry order, and `Action.members_keys` says that the written names are
those of the registry, so a step's text and its contract cannot drift apart.
-/

namespace Workflow

/-- What a compiled step does, with its settings. -/
inductive Action where
  | serviceCall (service endpoint : String)
  | scheduleTask (task cron : String)
  | dataProcessing (processingType : String) (batchSize : UInt64)
  | notification (notificationType message : String)
  | condition (test trueStep falseStep : String)
  | graphqlCall (service query : String)
  | delay (delayMs : UInt64)
  | externalEvent (eventType : String)
deriving DecidableEq, Repr, Inhabited

namespace Action

/-- The kind of an action. -/
def kind : Action → StepKind
  | serviceCall .. => .serviceCall
  | scheduleTask .. => .scheduleTask
  | dataProcessing .. => .dataProcessing
  | notification .. => .notification
  | condition .. => .condition
  | graphqlCall .. => .graphqlCall
  | delay .. => .delay
  | externalEvent .. => .externalEvent

/-- The steps that an action branches to; an empty name is no step. -/
def references : Action → List String
  | condition _ trueStep falseStep => [trueStep, falseStep].filter (· ≠ "")
  | _ => []

/-- An unsigned number as a value. -/
def unsigned (n : UInt64) : Json :=
  Json.integer n.toNat

/-- The settings of an action by field name, in registry order. -/
def members : Action → List (String × Json)
  | serviceCall service endpoint => [("service", .string service), ("endpoint", .string endpoint)]
  | scheduleTask task cron => [("task", .string task), ("cron", .string cron)]
  | dataProcessing processingType batchSize =>
    [("processingType", .string processingType), ("batchSize", unsigned batchSize)]
  | notification notificationType message =>
    [("notificationType", .string notificationType), ("message", .string message)]
  | condition test trueStep falseStep =>
    [("condition", .string test), ("trueStep", .string trueStep),
      ("falseStep", .string falseStep)]
  | graphqlCall service query => [("service", .string service), ("query", .string query)]
  | delay delayMs => [("delayMs", unsigned delayMs)]
  | externalEvent eventType => [("eventType", .string eventType)]

/-- The settings are named as the registry names them, in its order. -/
theorem members_keys (action : Action) :
    action.members.map Prod.fst = action.kind.fields.map FieldSpec.name := by
  cases action <;> rfl

end Action

/-- A named step of a compiled workflow. -/
structure Step where
  name : String
  action : Action
deriving DecidableEq, Repr, Inhabited

namespace Step

/-- The kind of a step. -/
def kind (step : Step) : StepKind :=
  step.action.kind

/-- The steps that a step branches to. -/
def references (step : Step) : List String :=
  step.action.references

end Step

end Workflow
