import Workflow.Timestamp.Basic

/-!
# What the engine keeps

The engine stores definitions as records, which carry a definition's text together with a status
and the times of its creation and last change, and it keeps one entry for every run of a
definition. A payload is what a client sends to change a record, and a creation request is a
payload with the status that the new record is to have.
-/

namespace Workflow

/-- Where a stored definition is in its life. -/
inductive Status where
  | draft
  | active
  | inactive
  | archived
deriving DecidableEq, Repr, Inhabited

namespace Status

/-- Every status. -/
def all : List Status :=
  [draft, active, inactive, archived]

/-- The name of a status. -/
def name : Status → String
  | draft => "DRAFT"
  | active => "ACTIVE"
  | inactive => "INACTIVE"
  | archived => "ARCHIVED"

/-- The status with exactly this name. -/
def ofName? (name : String) : Option Status :=
  all.find? fun status => status.name = name

/-- The status with this name, whatever the case of its ASCII letters. -/
def ofAnyCase? (text : String) : Option Status :=
  all.find? fun status => status.name.toList = text.toList.map Char.toUpper

/-- What is said of a text that names no status. -/
def unknownMessage (text : String) : String :=
  "unknown workflow status: " ++ text

@[simp] theorem ofName?_name (status : Status) : ofName? status.name = some status := by
  cases status <;> decide

end Status

/-- A stored definition. -/
structure Record where
  id : Int64
  name : String
  description : Option String
  version : String
  /-- The text of the definition. -/
  content : Option String
  status : Status
  createdBy : Option String
  createdAt : Timestamp
  updatedAt : Option Timestamp
deriving DecidableEq, Repr, Inhabited

/-- Where a run is. -/
inductive RunStatus where
  | running
  | completed
  | failed
  | paused
  | cancelled
deriving DecidableEq, Repr, Inhabited

namespace RunStatus

/-- Every status of a run. -/
def all : List RunStatus :=
  [running, completed, failed, paused, cancelled]

/-- The name of a run's status. -/
def name : RunStatus → String
  | running => "RUNNING"
  | completed => "COMPLETED"
  | failed => "FAILED"
  | paused => "PAUSED"
  | cancelled => "CANCELLED"

/-- The status with exactly this name. -/
def ofName? (name : String) : Option RunStatus :=
  all.find? fun status => status.name = name

@[simp] theorem ofName?_name (status : RunStatus) : ofName? status.name = some status := by
  cases status <;> decide

end RunStatus

/-- One run of a stored definition. -/
structure Run where
  id : Int64
  definitionId : Int64
  name : String
  status : RunStatus
  currentStep : Option String
  startedBy : Option String
  startedAt : Timestamp
  completedAt : Option Timestamp
  executionTimeMs : Option Int64
  errorMessage : Option String
deriving DecidableEq, Repr, Inhabited

/-- What a client says of a definition it stores. -/
structure Payload where
  name : String
  version : String
  content : String
  description : Option String
deriving DecidableEq, Repr, Inhabited

/-- A request to store a new definition. -/
structure Creation where
  payload : Payload
  status : Status
deriving DecidableEq, Repr, Inhabited

/-- What is saved from the editor goes live at once. -/
def Creation.active (payload : Payload) : Creation :=
  ⟨payload, .active⟩

end Workflow
