import Workflow.Proofs.Cache.Confluence
import Workflow.Proofs.Cache.Reporting

/-!
# What a saved graph is sent as

Saving a graph is decided when the call is made. If the graph does not compile, the call fails then
and there and leaves no trace but a notice. If it does, one request goes out, for the record that
is open at that moment or for a new one if none is. Replies to other calls may open another record
while the request is under way. They do not change what it is for.

This is not a matter of the cache but of the calls in flight. An event leaves every flight as it is
but the one that it ends, and the new one comes under an epoch that no other call has.
-/

namespace Workflow

namespace Session

variable {session : Session} {epoch : Nat} {flight : Flight} {call : Call} {request : Request}

/-! ## Requests that go out -/

/-- The calls whose requests go out in the course of a run, in this order. -/
def sent (session : Session) (events : List Event) : List Flight :=
  (session.turns events).filterMap Turn.started?

theorem sent_cons (session : Session) (event : Event) (rest : List Event) :
    session.sent (event :: rest) =
      (session.turn? event).toList.filterMap Turn.started? ++ (session.step event).1.sent rest := by
  rw [sent, turns, List.filterMap_append, sent]

/-- Every request that is still to go out gets a new epoch. -/
theorem epoch_lt_of_mem_sent {events : List Event} (later : flight ∈ session.sent events) :
    session.store.epoch < flight.epoch := by
  induction events generalizing session with
  | nil => exact absurd later List.not_mem_nil
  | cons event rest ih =>
      have proceeds := session.step_proceeds event
      rw [sent_cons] at later
      generalize (session.step event).1 = next at proceeds later
      generalize session.turn? event = turn? at proceeds later
      cases proceeds with
      | rests same => exact same ▸ ih later
      | withholds operation error same => exact same ▸ ih later
      | starts new numbered flights epoch loading =>
          obtain now | later := List.mem_append.mp later
          · cases List.mem_singleton.mp now
            omega
          · have := ih later
            omega
      | ends turn other ended member flights epoch loading =>
          have unstarted : turn.started? = none := by
            cases turn with
            | sent _ => cases ended
            | _ => rfl
          rw [Option.toList_some, List.filterMap_cons_none unstarted] at later
          exact epoch ▸ ih later

/-! ## Flights that are not ended -/

/-- An event leaves the flight of an epoch as it is unless it ends it. -/
theorem flight?_step (found : session.flight? epoch = some flight) {event : Event}
    (others : ∀ ending : Ending, event ≠ ending.event epoch) :
    (session.step event).1.flight? epoch = some flight := by
  have leaves (other : Nat) (ending : Ending) (same : event = ending.event other) :
      (session.step event).1.flight? epoch = some flight := by
    rw [same, flight?_step_event_of_ne ?_ ending, found]
    rintro rfl
    exact others ending same
  cases event with
  | call call =>
      cases requested : session.store.requestOf call with
      | error error =>
          rw [step_call_of_error requested]
          exact found
      | ok request =>
          unfold flight? at found
          rw [step_call_of_ok requested, flight?, List.find?_append, found, Option.some_or]
  | answer other answer => exact leaves other (.answered answer) rfl
  | drop other => exact leaves other .dropped rfl

/-- None of the events answers the call of an epoch or gives it up. -/
def EndsOthers (epoch : Nat) (events : List Event) : Prop :=
  ∀ event ∈ events, ∀ ending : Ending, event ≠ ending.event epoch

/-- A call stays in flight, with the request that it has sent, until it is answered or given up. -/
theorem flight?_run (found : session.flight? epoch = some flight) {events : List Event}
    (others : EndsOthers epoch events) : (session.run events).flight? epoch = some flight := by
  induction events generalizing session with
  | nil => exact found
  | cons event rest ih =>
      obtain ⟨other, others⟩ := List.forall_mem_cons.mp others
      exact ih (flight?_step found other) others

/-! ## Saving a graph -/

/-- A call that fails when it is made: nothing changes, one notice tells of it, and nothing goes out
for it. -/
structure Withholds (session : Session) (call : Call) (error : CompileError) : Prop where
  call_eq : session.call call = (session,
    [.notice ((call.operation session.store.current.isSome).failed error.message)],
    .error (.compile error))
  sent_eq : ∀ after, session.sent (.call call :: after) = session.sent after

/-- A call that is started and gives what its request is answered with. Just this request goes out
for it, whatever happens afterwards, and stays what it is until it is answered or given up. -/
structure Starts (session : Session) (flight : Flight) (warnings : List DanglingBranch) :
    Prop where
  call_eq : session.call flight.call =
    (⟨{ session.store with epoch := flight.epoch, loading := true }, session.flights ++ [flight]⟩,
      warnings.map .dangling, .ok flight)
  sent_eq : ∀ after, ∃ later, session.sent (.call flight.call :: after) = flight :: later ∧
    ∀ other ∈ later, other.epoch ≠ flight.epoch
  stays : ∀ after, EndsOthers flight.epoch after →
    (session.run (.call flight.call :: after)).flight? flight.epoch = some flight
  gives : ∀ after, EndsOthers flight.epoch after → ∀ answer,
    ((session.run (.call flight.call :: after)).answer flight.epoch answer).2.2 =
      some ((answer.map .reply).mapError .engine)

/-- A call that gets a request under a new epoch is started, if it passes on what is replied. -/
theorem starts_of_ok (unused : ∀ flying ∈ session.flights, flying.epoch ≠ session.store.epoch + 1)
    (requested : session.store.requestOf call = .ok request)
    (passes : ∀ reply, (Store.finish call reply).2 = .ok (.reply reply)) :
    session.Starts ⟨session.store.epoch + 1, call, request⟩ (session.store.warningsOf call) := by
  have found : (session.step (.call call)).1.flight? (session.store.epoch + 1) =
      some ⟨session.store.epoch + 1, call, request⟩ := by
    have none : session.flights.find? (fun flying => flying.epoch = session.store.epoch + 1) =
        none := by
      simpa using unused
    rw [step_call_of_ok requested, flight?, List.find?_append, none]
    simp
  constructor
  · simp [Session.call, Store.start, requested]
  · intro after
    rw [sent_cons, turn?, requested]
    refine ⟨_, rfl, fun other later => ?_⟩
    have new := epoch_lt_of_mem_sent later
    rw [step_call_of_ok requested] at new
    exact Nat.ne_of_gt new
  · intro after others
    exact flight?_run found others
  · intro after others answer
    rw [run_cons, Session.answer, flight?_run found others]
    cases answer with
    | error error => rfl
    | ok reply => exact congrArg some (passes reply)

/-- A call that has no request is withheld. It is one that saves a graph. -/
theorem withholds_of_error {error : CompileError}
    (unsent : session.store.requestOf call = .error error) : session.Withholds call error := by
  constructor
  · cases call with
    | saveGraph graph name version description =>
        rw [Session.call, Store.start, unsent,
          session.store.saveOperation_eq graph name version description]
        rfl
    | request request => cases unsent
    | openForEdit id => cases unsent
  · intro after
    rw [sent_cons, step_call_of_error unsent, turn?, unsent]
    rfl

/-- Saving a graph is decided when the call is made, whatever is in flight then and whatever other
calls come to before it is answered. If the graph does not compile, nothing is changed and nothing
goes out; the one notice is about an update if a record is open, and else about a creation. If it
compiles, one request goes out with its text: an update of the record that is open then, or, if
none is, the creation of an active one. -/
theorem saved_graph_targets_open (policy : MergePolicy) (order : StepOrder) (before : List Event)
    (graph : Graph) (name version : String) (description : Option String) :
    let session := (ofStore (.empty policy order)).run before
    let call := .saveGraph graph name version description
    match graph.compileText order name version with
    | .error error => session.Withholds call error
    | .ok text =>
      let payload := { name, version, content := text, description }
      let request := match session.store.current with
        | some record => .update record.id payload
        | none => .create ⟨payload, .active⟩
      session.Starts ⟨session.store.epoch + 1, call, request⟩
        (graph.compileWarnings order name version) := by
  intro session call
  have compiler : session.store.order = order := run_order before
  have unused : ∀ flying ∈ session.flights, flying.epoch ≠ session.store.epoch + 1 := by
    have tracks : session.Tracks _ := tracks_run _ before
    intro flying member
    have := tracks.started_le flying ((tracks.flights_iff flying).mp member).1
    omega
  cases compiled : graph.compileText order name version with
  | error error =>
      apply withholds_of_error
      rw [Store.requestOf, compiler, compiled]
      rfl
  | ok text =>
      have requested : session.store.requestOf call =
          .ok (session.store.saveRequest { name, version, content := text, description }) := by
        rw [Store.requestOf, compiler, compiled]
        rfl
      have starts := starts_of_ok unused requested fun _ => rfl
      rw [Store.warningsOf, compiler] at starts
      exact starts

/-- A definition is open and another one is on its way. -/
def reopening (first second : Record) : List Event :=
  [.call (.request (.get first.id)), .answer 1 (.ok (.definition first)),
    .call (.request (.get second.id))]

/-- A graph that is saved while another definition is on its way updates the one that is open, also
when the other one comes to be open first. -/
theorem saved_graph_targets_open_reopening :
    let first : Record := { (default : Record) with id := 7 }
    let second : Record := { (default : Record) with id := 8 }
    let session := (ofStore (.empty .latestRequestWins .edges)).run (reopening first second)
    let graph : Graph := { steps := [⟨"wait", "delay", "wait", .empty, .origin⟩], edges := [] }
    let call := .saveGraph graph "pause" "1" none
    let content := (Definition.mk "pause" "1" [⟨"wait", .delay 1000⟩]).text
    let payload := { name := "pause", version := "1", content, description := none }
    let flight := ⟨3, call, .update 7 payload⟩
    let overtaken := session.run [.call call, .answer 2 (.ok (.definition second))]
    session.Starts flight [] ∧ overtaken.store.current = some second ∧
      overtaken.flight? 3 = some flight ∧
      session.Withholds (.saveGraph graph "pause" " " none) .blankVersion := by
  intro first second session graph call content payload flight overtaken
  have starts : session.Starts flight [] :=
    saved_graph_targets_open .latestRequestWins .edges (reopening first second) graph "pause" "1"
      none
  have withholds : session.Withholds (.saveGraph graph "pause" " " none) .blankVersion :=
    saved_graph_targets_open .latestRequestWins .edges (reopening first second) graph "pause" " "
      none
  refine ⟨starts, rfl, ?_, withholds⟩
  apply starts.stays [.answer 2 (.ok (.definition second))]
  intro event member ending
  cases List.mem_singleton.mp member
  cases ending <;> simp [Ending.event, flight]

end Session

end Workflow
