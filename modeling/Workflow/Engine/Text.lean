import Workflow.Json.Decode
import Workflow.Json.Printer
import Workflow.Timestamp.Text
import Workflow.Engine.Record

/-!
# Records, runs and payloads as JSON

Objects are written with their members in a fixed order, and what is absent is left out. They are
read with members in any order, null counting as absent, and members with other names ignored. An
answer of the engine wraps its content in an envelope, of which only `data` matters.
-/

namespace Workflow

/-- A member that is left out when it has no value. -/
def optionalMember {α : Type} (key : String) (encode : α → Json) (value : Option α) :
    List (String × Json) :=
  value.toList.map fun value => (key, encode value)

/-- A 64-bit number as a value. -/
def Int64.toJson (n : Int64) : Json :=
  Json.integer n.toInt

/-- A timestamp as a value. -/
def Timestamp.toJson (t : Timestamp) : Json :=
  .string (String.ofList t.text)

/-- A timestamp from a parse tree. -/
def Timestamp.ofTree? (tree : ParseTree) : Option Timestamp := do
  Timestamp.ofText? (← tree.string?).toList

/-- A status as a value. -/
def Status.toJson (status : Status) : Json :=
  .string status.name

/-- A status from a parse tree. -/
def Status.ofTree? (tree : ParseTree) : Option Status := do
  Status.ofName? (← tree.caseName?)

/-- A run's status as a value. -/
def RunStatus.toJson (status : RunStatus) : Json :=
  .string status.name

/-- A run's status from a parse tree. -/
def RunStatus.ofTree? (tree : ParseTree) : Option RunStatus := do
  RunStatus.ofName? (← tree.caseName?)

namespace Record

/-- A record as an object. -/
def toJson (record : Record) : Json :=
  .object <|
    [("id", Int64.toJson record.id), ("name", .string record.name)] ++
    optionalMember "description" .string record.description ++
    [("version", .string record.version)] ++
    optionalMember "definitionJson" .string record.content ++
    [("status", record.status.toJson)] ++
    optionalMember "createdBy" .string record.createdBy ++
    [("createdAt", record.createdAt.toJson)] ++
    optionalMember "updatedAt" Timestamp.toJson record.updatedAt

/-- A record from a parse tree. -/
def ofTree? (tree : ParseTree) : Option Record := do
  let [id, name, description, version, content, status, createdBy, createdAt, updatedAt] ←
    tree.fields? ["id", "name", "description", "version", "definitionJson", "status", "createdBy",
      "createdAt", "updatedAt"] | none
  return {
    id := ← ParseTree.required ParseTree.int64? id
    name := ← ParseTree.required ParseTree.string? name
    description := ← ParseTree.optional ParseTree.string? description
    version := ← ParseTree.required ParseTree.string? version
    content := ← ParseTree.optional ParseTree.string? content
    status := ← ParseTree.required Status.ofTree? status
    createdBy := ← ParseTree.optional ParseTree.string? createdBy
    createdAt := ← ParseTree.required Timestamp.ofTree? createdAt
    updatedAt := ← ParseTree.optional Timestamp.ofTree? updatedAt }

/-- Records as an array. -/
def listToJson (records : List Record) : Json :=
  .array (records.map toJson)

/-- Records from the text of an array. -/
def listOfText? (text : String) : Option (List Record) := do
  (← ParseTree.read text).list? ofTree?

end Record

namespace Run

/-- A run as an object. -/
def toJson (run : Run) : Json :=
  .object <|
    [("id", Int64.toJson run.id), ("workflowDefinitionId", Int64.toJson run.definitionId),
      ("instanceName", .string run.name), ("status", run.status.toJson)] ++
    optionalMember "currentStep" .string run.currentStep ++
    optionalMember "startedBy" .string run.startedBy ++
    [("startedAt", run.startedAt.toJson)] ++
    optionalMember "completedAt" Timestamp.toJson run.completedAt ++
    optionalMember "executionTimeMs" Int64.toJson run.executionTimeMs ++
    optionalMember "errorMessage" .string run.errorMessage

/-- A run from a parse tree. -/
def ofTree? (tree : ParseTree) : Option Run := do
  let [id, definitionId, name, status, currentStep, startedBy, startedAt, completedAt,
      executionTimeMs, errorMessage] ←
    tree.fields? ["id", "workflowDefinitionId", "instanceName", "status", "currentStep",
      "startedBy", "startedAt", "completedAt", "executionTimeMs", "errorMessage"] | none
  return {
    id := ← ParseTree.required ParseTree.int64? id
    definitionId := ← ParseTree.required ParseTree.int64? definitionId
    name := ← ParseTree.required ParseTree.string? name
    status := ← ParseTree.required RunStatus.ofTree? status
    currentStep := ← ParseTree.optional ParseTree.string? currentStep
    startedBy := ← ParseTree.optional ParseTree.string? startedBy
    startedAt := ← ParseTree.required Timestamp.ofTree? startedAt
    completedAt := ← ParseTree.optional Timestamp.ofTree? completedAt
    executionTimeMs := ← ParseTree.optional ParseTree.int64? executionTimeMs
    errorMessage := ← ParseTree.optional ParseTree.string? errorMessage }

/-- Runs as an array. -/
def listToJson (runs : List Run) : Json :=
  .array (runs.map toJson)

end Run

namespace Payload

/-- The names of a payload's members, in their order. -/
def memberNames : List String :=
  ["name", "version", "definitionJson", "description"]

/-- The members of a payload. -/
def members (payload : Payload) : List (String × Json) :=
  [("name", .string payload.name), ("version", .string payload.version),
    ("definitionJson", .string payload.content)] ++
  optionalMember "description" .string payload.description

/-- A payload as an object. -/
def toJson (payload : Payload) : Json :=
  .object payload.members

/-- A payload from its fields. -/
def ofFields? (fields : List (Option ParseTree)) : Option Payload := do
  let [name, version, content, description] := fields | none
  return {
    name := ← ParseTree.required ParseTree.string? name
    version := ← ParseTree.required ParseTree.string? version
    content := ← ParseTree.required ParseTree.string? content
    description := ← ParseTree.optional ParseTree.string? description }

/-- A payload from a parse tree. -/
def ofTree? (tree : ParseTree) : Option Payload := do
  ofFields? (← tree.fields? memberNames)

end Payload

namespace Creation

/-- A creation request as one object: the payload's members, then the status. -/
def toJson (creation : Creation) : Json :=
  .object (creation.payload.members ++ [("status", creation.status.toJson)])

/-- A creation request from a parse tree, which must be an object. -/
def ofTree? (tree : ParseTree) : Option Creation := do
  let room := Json.maxDepth - 1
  let [status] ← tree.openFields? ["status"] room | none
  let payload ← tree.openFields? Payload.memberNames room
  return ⟨← Payload.ofFields? payload, ← ParseTree.required Status.ofTree? status⟩

end Creation

/-- The content of an engine's answer, taken out of its envelope. -/
def envelopeData? {α : Type} (decode : ParseTree → Option α) (tree : ParseTree) : Option α := do
  let [data] ← tree.fields? ["data"] | none
  ParseTree.required decode data

end Workflow
