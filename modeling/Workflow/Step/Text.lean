import Workflow.Json.Decode
import Workflow.Json.Printer
import Workflow.Step.Basic

/-!
# Compiled steps as JSON

A step is one object: its name, its kind's tag under `type`, and its settings beside them. Read
back, its members may come in any order, and members that do not belong to its kind are passed
over; the kind may also be given by its place in the palette.
-/

namespace Workflow

/-- A step as an object. -/
def Step.toJson (step : Step) : Json :=
  .object (("name", .string step.name) :: ("type", .string step.kind.tag) :: step.action.members)

/-- The kind that a `type` member stands for: by tag, or by its place among all kinds. -/
def StepKind.ofTree? (tree : ParseTree) : Option StepKind :=
  match tree with
  | .string tag => tag.bind StepKind.ofTag?
  | .number (some (.integer n _)) => if 0 ≤ n then StepKind.all[n.toNat]? else none
  | _ => none

/-- An action of a given kind from its settings, in registry order. -/
def Action.ofTrees? (kind : StepKind) (settings : List (Option ParseTree)) : Option Action :=
  let text := ParseTree.required ParseTree.string?
  let unsigned := ParseTree.required ParseTree.uint64?
  match kind, settings with
  | .serviceCall, [service, endpoint] =>
    return .serviceCall (← text service) (← text endpoint)
  | .scheduleTask, [task, cron] => return .scheduleTask (← text task) (← text cron)
  | .dataProcessing, [processingType, batchSize] =>
    return .dataProcessing (← text processingType) (← unsigned batchSize)
  | .notification, [notificationType, message] =>
    return .notification (← text notificationType) (← text message)
  | .condition, [test, trueStep, falseStep] =>
    return .condition (← text test) (← text trueStep) (← text falseStep)
  | .graphqlCall, [service, query] => return .graphqlCall (← text service) (← text query)
  | .delay, [delayMs] => return .delay (← unsigned delayMs)
  | .externalEvent, [eventType] => return .externalEvent (← text eventType)
  | _, _ => none

/-- A step from the object that describes it, inside which containers may nest `room` deep. -/
def Step.ofTree? (room : Nat) (tree : ParseTree) : Option Step := do
  let [name, type] ← tree.openFields? ["name", "type"] room | none
  let name ← ParseTree.required ParseTree.string? name
  let kind ← ParseTree.required StepKind.ofTree? type
  let settings ← tree.openFields? (kind.fields.map FieldSpec.name) room
  return ⟨name, ← Action.ofTrees? kind settings⟩

/-- A step from its text. -/
def Step.ofText? (text : String) : Option Step := do
  Step.ofTree? (Json.maxDepth - 1) (← ParseTree.read text)

end Workflow
