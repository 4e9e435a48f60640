import Workflow.Json.Basic
import Workflow.Engine.Record

/-!
# Requests to the engine

The seven things an engine can be asked for, the replies it gives and the ways in which a request
can fail. Every failure is tagged with the operation that was attempted.
-/

namespace Workflow

/-- What an engine can be asked to do. -/
inductive Operation where
  | listDefinitions
  | getDefinition
  | createDefinition
  | updateDefinition
  | executeByName
  | setStatus
  | listRuns
deriving DecidableEq, Repr, Inhabited

/-- An operation in words. -/
def Operation.description : Operation → String
  | .listDefinitions => "list workflows"
  | .getDefinition => "load workflow"
  | .createDefinition => "save workflow"
  | .updateDefinition => "update workflow"
  | .executeByName => "execute workflow"
  | .setStatus => "update workflow status"
  | .listRuns => "list workflow instances"

/-- An operation with its arguments. -/
inductive Request where
  | list
  | get (id : Int64)
  | create (creation : Creation)
  | update (id : Int64) (payload : Payload)
  | execute (name : String) (context : Json)
  | setStatus (id : Int64) (status : Status)
  | runs
deriving DecidableEq, Repr, Inhabited

namespace Request

/-- The operation of a request. -/
def operation : Request → Operation
  | list => .listDefinitions
  | get _ => .getDefinition
  | create _ => .createDefinition
  | update .. => .updateDefinition
  | execute .. => .executeByName
  | setStatus .. => .setStatus
  | runs => .listRuns

/-- The name of the workflow that a request is about, if it gives one. -/
def subject? : Request → Option String
  | create creation => some creation.payload.name
  | update _ payload => some payload.name
  | execute name _ => some name
  | _ => none

end Request

/-- What an engine answers. -/
inductive Reply where
  | definitions (records : List Record)
  | definition (record : Record)
  | executed
  | runs (runs : List Run)
deriving DecidableEq, Repr, Inhabited

/-- What went wrong with a request. -/
inductive Failure where
  /-- The engine answered with a status that is not a success. -/
  | status (code : Nat) (body : String)
  /-- The request never completed. -/
  | transport (reason : String)
  /-- The engine's answer makes no sense. -/
  | undecodable (reason : String)
  /-- The request cannot be made. -/
  | invalidRequest (reason : String)
  /-- There is no such definition. -/
  | notFound (what : String)
deriving DecidableEq, Repr

/-- A failure as it is reported. -/
def Failure.message : Failure → String
  | .status code _ => "engine responded with status " ++ toString code
  | .transport reason => "transport error: " ++ reason
  | .undecodable reason => "invalid response: " ++ reason
  | .invalidRequest reason => "invalid request: " ++ reason
  | .notFound what => "not found: " ++ what

/-- A failure of an operation. -/
structure EngineError where
  operation : Operation
  failure : Failure
deriving DecidableEq, Repr

namespace EngineError

/-- A failed operation as it is reported. -/
def message (error : EngineError) : String :=
  "failed to " ++ error.operation.description ++ ": " ++ error.failure.message

/-- The status with which the engine refused, if it answered; what is not found counts as 404. -/
def status? (error : EngineError) : Option Nat :=
  match error.failure with
  | .status code _ => some code
  | .notFound _ => some 404
  | _ => none

end EngineError

end Workflow
