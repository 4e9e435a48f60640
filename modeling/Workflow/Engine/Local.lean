import Workflow.Json.Decode
import Workflow.Engine.Request

/-!
# A local engine

An engine without a server: it keeps records and runs in lists, numbers them, stamps them with the
time of a clock, and runs a definition by walking through its steps. Records are appended or
changed in place, never moved or removed; runs are only appended. A request that fails changes
nothing.
-/

namespace Workflow

/-- What the clock shows while a request is served. Where a run is over it is read again, and once
more for the run's name. -/
structure Clock where
  /-- The local time when the request is taken up, in nanoseconds from the start of 1970 on the same
  clock. -/
  start : Int
  /-- The local time when a run is over, counted in the same way. -/
  finish : Int
  /-- The milliseconds since the start of 1970, in no time zone, that a run's name ends in. -/
  millis : Int
deriving DecidableEq, Repr, Inhabited

namespace Clock

/-- The number of nanoseconds of a millisecond. -/
def nanosPerMilli : Int :=
  1000000

/-- A clock that stands still. -/
def still (millis : Int) : Clock :=
  ⟨millis * nanosPerMilli, millis * nanosPerMilli, millis⟩

instance (millis : Nat) : OfNat Clock millis := ⟨still millis⟩

/-- The time at which a request is served. -/
def started (clock : Clock) : Timestamp :=
  .ofEpochNanos clock.start

/-- The time at which a run is over. -/
def finished (clock : Clock) : Timestamp :=
  .ofEpochNanos clock.finish

/-- The whole milliseconds that a run takes. -/
def elapsedMillis (clock : Clock) : Int64 :=
  Int64.ofInt ((clock.finish - clock.start).tdiv nanosPerMilli)

end Clock

/-- A local engine's contents. -/
structure LocalEngine where
  definitions : List Record
  runs : List Run
  /-- The number of the newest record. -/
  lastDefinitionId : Int64
  /-- The number of the newest run. -/
  lastRunId : Int64
deriving DecidableEq, Repr, Inhabited

namespace LocalEngine

/-- The engine without contents. -/
def empty : LocalEngine :=
  ⟨[], [], 0, 0⟩

/-- The engine that holds the given records. New ones are numbered after the highest of them. -/
def ofRecords (records : List Record) : LocalEngine :=
  { empty with
    definitions := records
    lastDefinitionId := Int64.ofInt ((records.map (·.id.toInt)).max?.getD 0) }

/-- The record with a given number. -/
def definition? (engine : LocalEngine) (id : Int64) : Option Record :=
  engine.definitions.find? fun record => record.id = id

/-- The first record with a given name. -/
def named? (engine : LocalEngine) (name : String) : Option Record :=
  engine.definitions.find? fun record => record.name = name

/-- How a missing record is referred to by its number. -/
def byId (id : Int64) : String :=
  "workflow " ++ toString id.toInt

/-- How a record is referred to by its name. -/
def byName (name : String) : String :=
  "workflow '" ++ name ++ "'"

/-! ## Running a definition -/

/-- Why a run fails. -/
inductive RunDefect where
  | noContent
  | notJson
  | stepWithoutName
deriving DecidableEq, Repr

/-- A run's defect as it is recorded. -/
def RunDefect.message : RunDefect → String
  | .noContent => "definition has no content"
  | .notJson => "invalid definition: not a JSON text"
  | .stepWithoutName => "step without a name"

/-- Walk through steps, each of which must have a name. The last name is where the walk ends. -/
def walk (current : Option String) : List Json → Except RunDefect (Option String)
  | [] => .ok current
  | step :: rest =>
    match step.member? "name" with
    | some (.string name) => walk (some name) rest
    | _ => .error .stepWithoutName

/-- Run the text of a definition. Anything without a list of steps has nothing to do. -/
def runContent (content : Option String) : Except RunDefect (Option String) :=
  match content with
  | none => .error .noContent
  | some text =>
    match Json.ofText? text with
    | none => .error .notJson
    | some value =>
      match value.member? "steps" with
      | some (.array steps) => walk none steps
      | _ => .ok none

/-! ## Requests -/

/-- Store a new record, under a name that is not empty and not taken. -/
def create (engine : LocalEngine) (clock : Clock) (creation : Creation) :
    Except Failure (Record × LocalEngine) :=
  let payload := creation.payload
  if payload.name = "" then .error (.invalidRequest "name must not be empty")
  else if (engine.named? payload.name).isSome then
    .error (.status 409 (byName payload.name ++ " already exists"))
  else
    let id := engine.lastDefinitionId + 1
    let record : Record := {
      id
      name := payload.name
      description := payload.description
      version := payload.version
      content := some payload.content
      status := creation.status
      createdBy := none
      createdAt := clock.started
      updatedAt := none }
    .ok (record, { engine with
      definitions := engine.definitions ++ [record]
      lastDefinitionId := id })

/-- Change the record with a given number and stamp it with the time. -/
def change (engine : LocalEngine) (clock : Clock) (id : Int64) (f : Record → Record) :
    Except Failure (Record × LocalEngine) :=
  match engine.definition? id, engine.definitions.findIdx? (·.id = id) with
  | some record, some i =>
    let changed := { f record with updatedAt := some clock.started }
    .ok (changed, { engine with definitions := engine.definitions.set i changed })
  | _, _ => .error (.notFound (byId id))

/-- A record with the contents of a payload. -/
def withPayload (payload : Payload) (record : Record) : Record :=
  { record with
    name := payload.name
    version := payload.version
    content := some payload.content
    description := payload.description }

/-- Run the definition with a given name; how the run went is recorded. -/
def execute (engine : LocalEngine) (clock : Clock) (name : String) : Except Failure LocalEngine :=
  match engine.named? name with
  | none => .error (.notFound (byName name))
  | some record =>
    let outcome := runContent record.content
    let id := engine.lastRunId + 1
    let run : Run := {
      id
      definitionId := record.id
      name := record.name ++ "_" ++ toString clock.millis
      status := match outcome with
        | .ok _ => .completed
        | .error _ => .failed
      currentStep := match outcome with
        | .ok step => step
        | .error _ => none
      startedBy := some "system"
      startedAt := clock.started
      completedAt := some clock.finished
      executionTimeMs := some clock.elapsedMillis
      errorMessage := match outcome with
        | .ok _ => none
        | .error defect => some defect.message }
    .ok { engine with runs := engine.runs ++ [run], lastRunId := id }

/-- The answer to a request under a clock, and the engine after it. -/
def respond (engine : LocalEngine) (clock : Clock) : Request → Except Failure (Reply × LocalEngine)
  | .list => .ok (.definitions engine.definitions, engine)
  | .get id =>
    match engine.definition? id with
    | some record => .ok (.definition record, engine)
    | none => .error (.notFound (byId id))
  | .create creation =>
    (engine.create clock creation).map fun (record, engine) => (.definition record, engine)
  | .update id payload =>
    (engine.change clock id (withPayload payload)).map fun (record, engine) =>
      (.definition record, engine)
  | .execute name _ => (engine.execute clock name).map fun engine => (.executed, engine)
  | .setStatus id status =>
    (engine.change clock id fun record => { record with status }).map fun (record, engine) =>
      (.definition record, engine)
  | .runs => .ok (.runs engine.runs, engine)

/-- Serve a request: the answer, or the failure of its operation, and the engine after it. -/
def serve (engine : LocalEngine) (clock : Clock) (request : Request) :
    Except EngineError Reply × LocalEngine :=
  match engine.respond clock request with
  | .ok (reply, engine) => (.ok reply, engine)
  | .error failure => (.error ⟨request.operation, failure⟩, engine)

end LocalEngine

end Workflow
