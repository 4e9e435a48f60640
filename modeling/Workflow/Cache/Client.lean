import Workflow.Cache.Store
import Workflow.Engine.Local

/-!
# Clients

A store together with an engine that answers each request before the next call is made, so that
nothing is ever in flight between calls.
-/

namespace Workflow

/-- A store and the engine that answers it. -/
structure Client (E : Type) where
  store : Store
  engine : E
deriving DecidableEq, Repr

namespace Client

/-- Make a call and settle it with the engine's answer. -/
def call {E : Type} (client : Client E) (serve : E → Request → Except EngineError Reply × E)
    (call : Call) : Client E × List Report × Except CallError CallResult :=
  let started := client.store.start call
  match started.result with
  | .error error => (⟨started.store, client.engine⟩, started.reports, .error error)
  | .ok flight =>
    let (answer, engine) := serve client.engine flight.request
    let settled := started.store.settle flight answer
    (⟨settled.store, engine⟩, started.reports ++ settled.reports, settled.result)

/-- Make a call to a local engine under a clock. -/
def callLocal (client : Client LocalEngine) (clock : Clock) (call : Call) :
    Client LocalEngine × List Report × Except CallError CallResult :=
  client.call (fun engine request => engine.serve clock request) call

/-- Make calls to a local engine one after another, each at the time that its clock then shows:
the client after them, and what was told on the way. -/
def runLocal (client : Client LocalEngine) :
    List (Clock × Call) → Client LocalEngine × List Report
  | [] => (client, [])
  | (clock, call) :: rest =>
    let (next, told, _) := client.callLocal clock call
    let (last, later) := next.runLocal rest
    (last, told ++ later)

end Client

end Workflow
