import Workflow.Cache.Store

/-!
# Sessions

A store whose calls overlap. Any number of them may be in flight, known by their epochs; what
happens next is that a call is made, or that one in flight is answered or dropped.
-/

namespace Workflow

/-- A store and its calls in flight. -/
structure Session where
  store : Store
  flights : List Flight
deriving DecidableEq, Repr

/-- What can happen in a session. -/
inductive Session.Event where
  | call (call : Call)
  | answer (epoch : Nat) (answer : Except EngineError Reply)
  | drop (epoch : Nat)
deriving Repr

namespace Session

/-- A session before any call. -/
def ofStore (store : Store) : Session :=
  ⟨store, []⟩

/-- The flight of an epoch. -/
def flight? (session : Session) (epoch : Nat) : Option Flight :=
  session.flights.find? fun flight => flight.epoch = epoch

/-- The flights other than that of an epoch. -/
def flightsWithout (session : Session) (epoch : Nat) : List Flight :=
  session.flights.filter fun flight => flight.epoch ≠ epoch

/-- Make a call, which is then in flight or has failed. -/
def call (session : Session) (call : Call) :
    Session × List Report × Except CallError Flight :=
  let started := session.store.start call
  let flights := match started.result with
    | .ok flight => session.flights ++ [flight]
    | .error _ => session.flights
  (⟨started.store, flights⟩, started.reports, started.result)

/-- Answer the flight of an epoch, if there is one. -/
def answer (session : Session) (epoch : Nat) (answer : Except EngineError Reply) :
    Session × List Report × Option (Except CallError CallResult) :=
  match session.flight? epoch with
  | some flight =>
    let settled := session.store.settle flight answer
    (⟨settled.store, session.flightsWithout epoch⟩, settled.reports, some settled.result)
  | none => (session, [], none)

/-- Drop the flight of an epoch, if there is one. -/
def drop (session : Session) (epoch : Nat) : Session :=
  match session.flight? epoch with
  | some _ => ⟨session.store.drop, session.flightsWithout epoch⟩
  | none => session

/-- The session after an event, and what was told. -/
def step (session : Session) : Event → Session × List Report
  | .call call => let (session, reports, _) := session.call call; (session, reports)
  | .answer epoch answer => let (session, reports, _) := session.answer epoch answer
    (session, reports)
  | .drop epoch => (session.drop epoch, [])

/-- The session after a sequence of events. -/
def run (session : Session) (events : List Event) : Session :=
  events.foldl (fun session event => (session.step event).1) session

end Session

end Workflow
