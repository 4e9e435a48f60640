import Workflow.Proofs.Success
import Workflow.Proofs.Cache.Turns

/-!
# What is told of calls

Whoever uses a store learns from notices how the calls went. There is one for each call that the
engine answers, when it is answered, and one for each graph that does not compile, when it is to
be saved. A definition that was loaded but cannot be edited gets a second notice right after the
first. Nothing else is told in a notice, and nothing is told of a call that is given up.

The notices that a turn calls for are written out below in full and say nothing of how a store
comes to tell them.
-/

namespace Workflow

/-- The notice in a report, if it is one. -/
def Report.notice? : Report → Option Notice
  | .notice sent => some sent
  | _ => none

/-- The operation that a call stands for. A graph is saved by an update while a definition is
open. -/
def Call.operation (editing : Bool) : Call → Operation
  | .request given => given.operation
  | .openForEdit _ => .getDefinition
  | .saveGraph .. => if editing then .updateDefinition else .createDefinition

/-- Why a record cannot be edited: it has no content, or no graph can be made of its content. -/
def Record.unfit? (record : Record) : Option LoadError :=
  match record.content with
  | none => some (.malformed .noContent)
  | some text =>
    match Graph.ofDefinitionText text with
    | .ok _ => none
    | .error error => some error

/-- Why a call to open a definition for editing fails although the definition was loaded. -/
def Flight.setback? (flight : Flight) : Reply → Option LoadError
  | .definition record =>
    match flight.call with
    | .openForEdit _ => record.unfit?
    | _ => none
  | _ => none

/-- A notice of a failed operation, under the sentence that is usual for it. -/
def Operation.failed (operation : Operation) (reason : String) : Notice where
  level := .error
  operation
  message := "Failed to " ++ operation.description
  detail := some reason

/-- The notices that a turn calls for. -/
def Turn.notices : Turn → List Notice
  | .sent _ | .dropped _ => []
  | .withheld operation error => [operation.failed error.message]
  | .answered flight (.error error) => [flight.request.operation.failed error.message]
  | .answered flight (.ok reply) =>
    { level := .success
      operation := flight.request.operation
      message := flight.request.operation.successMessage flight.request.subject?
      detail := none } ::
    (flight.setback? reply).toList.map fun error =>
      { level := .error
        operation := .getDefinition
        message := "Failed to load workflow for editing"
        detail := some error.message }

namespace Store

/-- A call has a request, for the operation that it stands for, unless its graph does not
compile. -/
theorem requestOf_operation {store : Store} {call : Call} {request : Request}
    (sent : store.requestOf call = .ok request) :
    request.operation = call.operation store.current.isSome := by
  cases call with
  | request given =>
      cases sent
      rfl
  | openForEdit id =>
      cases sent
      rfl
  | saveGraph graph name version description =>
      obtain ⟨text, -, rfl⟩ := Except.map_eq_ok_iff.mp sent
      unfold saveRequest
      cases store.current <;> rfl

theorem saveOperation_eq (store : Store) (graph : Graph) (name version : String)
    (description : Option String) : store.saveOperation =
      (Call.saveGraph graph name version description).operation store.current.isSome := by
  unfold saveOperation
  cases store.current <;> rfl

/-- What a call makes of a reply is told only if it fails for that. -/
theorem notices_finish (flight : Flight) (reply : Reply) :
    (finish flight.call reply).1.filterMap Report.notice? =
      (flight.setback? reply).toList.map fun error =>
        ⟨.error, .getDefinition, "Failed to load workflow for editing", some error.message⟩ := by
  obtain ⟨epoch, call, request⟩ := flight
  cases call with
  | openForEdit id =>
      cases reply with
      | definition record =>
          obtain ⟨_, _, _, _, content, _, _, _, _⟩ := record
          cases content with
          | none => rfl
          | some text =>
              simp only [finish, graphOf, Flight.setback?, Record.unfit?]
              cases Graph.ofDefinitionText text <;> rfl
      | _ => rfl
  | _ => cases reply <;> rfl

end Store

namespace Session

/-- The notices of a step are those that its turn calls for. -/
theorem notices_step (session : Session) (event : Event) :
    (session.step event).2.filterMap Report.notice? =
      (session.turn? event).toList.flatMap Turn.notices := by
  cases event with
  | call call =>
      cases sent : session.store.requestOf call with
      | ok request =>
          have quiet (branches : List DanglingBranch) :
              (branches.map Report.dangling).filterMap Report.notice? = [] := by
            simp [List.filterMap_map, Function.comp_def, Report.notice?]
          simp [step, Session.call, Store.start, turn?, sent, quiet, Turn.notices]
      | error error => simp [step, Session.call, Store.start, turn?, sent, Report.notice?,
          Turn.notices, Notice.failure, Operation.failed]
  | answer epoch answer =>
      cases found : session.flight? epoch with
      | none => simp [step_answer_of_none found, turn?, found]
      | some flight =>
          cases answer with
          | error error => simp [step, Session.answer, Store.settle, turn?, found, Report.notice?,
              Turn.notices, Notice.failure, Operation.failed]
          | ok reply =>
              simp [step, Session.answer, Store.settle, turn?, found, Report.notice?,
                Turn.notices, Notice.success, Store.notices_finish]
  | drop epoch =>
      cases found : session.flight? epoch with
      | none => simp [step_drop_of_none found, turn?, found]
      | some flight => simp [step, turn?, found, Turn.notices]

/-- The notices of a run are those that its turns call for, in the order of the turns. -/
theorem notices_told (session : Session) (events : List Event) :
    (session.told events).filterMap Report.notice? =
      (session.turns events).flatMap Turn.notices := by
  induction events generalizing session with
  | nil => rfl
  | cons event rest ih =>
      rw [told, turns, List.filterMap_append, List.flatMap_append, notices_step, ih]

/-- A call in flight was made in the course of the run, and its request is for the operation
that it stood for at that time. -/
theorem call_of_sent_mem_turns {session : Session} {events : List Event} {flight : Flight}
    (sent : .sent flight ∈ session.turns events) :
    ∃ before after, events = before ++ .call flight.call :: after ∧
      flight.request.operation =
        flight.call.operation (session.run before).store.current.isSome := by
  induction events using List.reverseRecOn with
  | nil => exact absurd sent List.not_mem_nil
  | append_singleton front last ih =>
      rw [turns_append_singleton, List.mem_append] at sent
      rcases sent with old | new
      · obtain ⟨before, after, rfl, same⟩ := ih old
        exact ⟨before, after ++ [last], by simp, same⟩
      · cases last with
        | call call =>
            cases requested : (session.run front).store.requestOf call with
            | ok request =>
                simp only [turn?, requested, Option.toList_some, List.mem_singleton,
                  Turn.sent.injEq] at new
                rw [new]
                exact ⟨front, [], rfl, Store.requestOf_operation requested⟩
            | error error => simp [turn?, requested] at new
        | answer epoch answer => simp [turn?] at new
        | drop epoch => simp [turn?] at new

/-- A graph that does not compile is withheld, and the run goes on as if it had not been
saved. -/
theorem turns_uncompiled (session : Session) (before after : List Event) {graph : Graph}
    {name version : String} (description : Option String) {error : CompileError}
    (uncompiled : graph.compileText session.store.order name version = .error error) :
    let call := .saveGraph graph name version description
    session.turns (before ++ .call call :: after) =
      session.turns before ++
        .withheld (call.operation (session.run before).store.current.isSome) error ::
        (session.run before).turns after := by
  intro call
  have unsent : (session.run before).store.requestOf call = .error error := by
    rw [Store.requestOf, run_order, uncompiled]
    rfl
  have turn : (session.run before).turn? (.call call) =
      some (.withheld (call.operation (session.run before).store.current.isSome) error) := by
    rw [← Store.saveOperation_eq, turn?, unsent]
  rw [turns_append, turns, turn, step_call_of_error unsent]
  rfl

/-- What becomes of calls is told in notices once and for all, whatever calls are made and however
they overlap. The notices of a run are those that its turns call for, in the order of the turns:
one for each call that is answered, for the operation that the call stood for when it was made, a
second one if the definition that it loaded cannot be edited, and none for a call that is given
up. A call ends once at most. A graph that does not compile has its one notice when it is to be
saved, and no request for it goes out. -/
theorem notices_of_turns (policy : MergePolicy) (order : StepOrder) :
    let start := ofStore (.empty policy order)
    (∀ events,
      (start.told events).filterMap Report.notice? =
        (start.turns events).flatMap Turn.notices ∧
      ((start.turns events).filterMap Turn.ended?).Nodup ∧
      ∀ turn ∈ start.turns events, ∀ flight, turn.ended? = some flight →
        ∃ before after, events = before ++ .call flight.call :: after ∧
          flight.request.operation =
            flight.call.operation (start.run before).store.current.isSome) ∧
    ∀ before after graph name version description error,
      graph.compileText order name version = .error error →
      let call := .saveGraph graph name version description
      start.turns (before ++ .call call :: after) =
        start.turns before ++
          .withheld (call.operation (start.run before).store.current.isSome) error ::
          (start.run before).turns after := by
  intro start
  constructor
  · intro events
    have tracks : (start.run events).Tracks (start.turns events) := tracks_run _ events
    refine ⟨start.notices_told events, tracks.ended_nodup, ?_⟩
    intro turn member flight ended
    exact call_of_sent_mem_turns (tracks.ended_started turn member flight ended)
  · intro before after graph name version description error uncompiled
    exact start.turns_uncompiled before after description uncompiled

end Session

end Workflow
