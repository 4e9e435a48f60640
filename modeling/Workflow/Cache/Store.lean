import Workflow.Definition.Compile
import Workflow.Definition.Load
import Workflow.Cache.Merge
import Workflow.Cache.Notice

/-!
# The store

A store answers calls by requests to an engine and keeps what the replies say. A call is started,
which gives it an epoch and sends its request, and is then in flight until it is settled by the
engine's answer or dropped. Calls overlap freely; the loading flag is set when any call starts and
cleared when any call ends, so it is only a hint.

Two calls do more than pass on a request. Opening a definition for editing loads it and rebuilds
its graph. Saving a graph compiles it first and then updates the definition that is open at that
moment, or creates one; a graph that does not compile never reaches the engine.
-/

namespace Workflow

/-- What a store can be asked to do. -/
inductive Call where
  | request (request : Request)
  | openForEdit (id : Int64)
  | saveGraph (graph : Graph) (name version : String) (description : Option String)
deriving DecidableEq, Repr

/-- Why a call fails. -/
inductive CallError where
  | engine (error : EngineError)
  | compile (error : CompileError)
  | load (error : LoadError)
deriving DecidableEq, Repr

/-- An error as it is reported. -/
def CallError.message : CallError → String
  | .engine error => error.message
  | .compile error => "failed to compile workflow: " ++ error.message
  | .load error => "failed to open workflow for editing: " ++ error.message

/-- What a call gives. -/
inductive CallResult where
  | reply (reply : Reply)
  | graph (graph : Graph)
deriving DecidableEq, Repr

/-- What a store tells while it works. -/
inductive Report where
  /-- A saved graph has a branch that leads nowhere. -/
  | dangling (branch : DanglingBranch)
  /-- A reply was not merged in full. -/
  | stale
  | notice (notice : Notice)
deriving DecidableEq, Repr

/-- What is said of a reply that was not merged in full. -/
def Report.staleMessage : String :=
  "stale response not merged"

/-- A call whose request has been sent. -/
structure Flight where
  epoch : Nat
  call : Call
  request : Request
deriving DecidableEq, Repr

/-- A store: its cache, its loading flag, and how it merges and compiles. -/
structure Store where
  replica : Replica
  /-- Whether the last thing that happened was a call's start. -/
  loading : Bool
  /-- The epoch of the newest call, zero before any. -/
  epoch : Nat
  policy : MergePolicy
  order : StepOrder
deriving DecidableEq, Repr, Inhabited

/-- What working on a call has led to. -/
structure Progress (α : Type) where
  store : Store
  reports : List Report
  result : α

namespace Store

/-- A store that has seen nothing. -/
def empty (policy : MergePolicy) (order : StepOrder) : Store :=
  ⟨.empty, false, 0, policy, order⟩

/-- What is cached. -/
def snapshot (store : Store) : Snapshot :=
  store.replica.snapshot

/-- The definition that is open. -/
def current (store : Store) : Option Record :=
  store.snapshot.current

/-- The request that saves a definition: an update of what is open, or else a creation. -/
def saveRequest (store : Store) (payload : Payload) : Request :=
  match store.current with
  | some record => .update record.id payload
  | none => .create (.active payload)

/-- The operation that saving a graph stands for. -/
def saveOperation (store : Store) : Operation :=
  match store.current with
  | some _ => .updateDefinition
  | none => .createDefinition

/-- The request that a call sends, if it gets that far. -/
def requestOf (store : Store) : Call → Except CompileError Request
  | .request request => .ok request
  | .openForEdit id => .ok (.get id)
  | .saveGraph graph name version description =>
    (graph.compileText store.order name version).map fun content =>
      store.saveRequest { name, version, content, description }

/-- The warnings that go with compiling what a call saves. -/
def warningsOf (store : Store) : Call → List DanglingBranch
  | .saveGraph graph name version _ => graph.compileWarnings store.order name version
  | _ => []

/-- Start a call: the flight, or why no request is sent. -/
def start (store : Store) (call : Call) : Progress (Except CallError Flight) :=
  match store.requestOf call with
  | .ok request =>
    let epoch := store.epoch + 1
    { store := { store with epoch, loading := true }
      reports := (store.warningsOf call).map .dangling
      result := .ok ⟨epoch, call, request⟩ }
  | .error error =>
    { store
      reports := [.notice (.failure store.saveOperation error.message)]
      result := .error (.compile error) }

/-- The graph of a record's content. -/
def graphOf (record : Record) : Except LoadError Graph :=
  match record.content with
  | none => .error (.malformed .noContent)
  | some text => Graph.ofDefinitionText text

/-- What a call makes of the reply to its request, and what there is to tell of it. -/
def finish : Call → Reply → List Report × Except CallError CallResult
  | .openForEdit _, .definition record =>
    match graphOf record with
    | .ok graph => ([], .ok (.graph graph))
    | .error error =>
      let notice := (Notice.failure .getDefinition error.message).withMessage
        "Failed to load workflow for editing"
      ([.notice notice], .error (.load error))
  | _, reply => ([], .ok (.reply reply))

/-- Settle a flight with the engine's answer. -/
def settle (store : Store) (flight : Flight) (answer : Except EngineError Reply) :
    Progress (Except CallError CallResult) :=
  match answer with
  | .ok reply =>
    let merged := store.replica.merge store.policy flight.epoch flight.request reply
    let (reports, result) := finish flight.call reply
    let stale := if merged.refused.isEmpty then [] else [.stale]
    let notice := Notice.success flight.request.operation flight.request.subject?
    { store := { store with replica := merged.replica, loading := false }
      reports := stale ++ .notice notice :: reports
      result }
  | .error error =>
    { store := { store with loading := false }
      reports := [.notice (.failure flight.request.operation error.message)]
      result := .error (.engine error) }

/-- Give a flight up. -/
def drop (store : Store) : Store :=
  { store with loading := false }

end Store

end Workflow
