import Workflow.Proofs.Cache.History
import Workflow.Proofs.Cache.Judgement

/-!
# Runs side by side

To compare two runs one has to know what each event does to a session, and not only what
kind of move it is. The steps are spelled out here once. What a run lets see is what is
cached after each reply that it merges and how that reply was judged.
-/

namespace Workflow

/-- The request that a call sends depends on the order of compilation and on what is open. -/
theorem Store.requestOf_congr {store other : Store} (order : other.order = store.order)
    (snapshot : other.snapshot = store.snapshot) (call : Call) :
    other.requestOf call = store.requestOf call := by
  have saves : other.saveRequest = store.saveRequest := by
    funext payload
    rw [saveRequest, saveRequest, current, current, snapshot]
  cases call with
  | request request => rfl
  | openForEdit id => rfl
  | saveGraph graph name version description => rw [requestOf, requestOf, order, saves]

namespace Session

variable {session : Session} {epoch : Nat} {flight : Flight}

/-! ## Steps spelled out -/

theorem step_call_of_ok {call : Call} {request : Request}
    (sent : session.store.requestOf call = .ok request) :
    (session.step (.call call)).1 =
      ⟨{ session.store with epoch := session.store.epoch + 1, loading := true },
        session.flights ++ [⟨session.store.epoch + 1, call, request⟩]⟩ := by
  simp [step, Session.call, Store.start, sent]

theorem step_call_of_error {call : Call} {error : CompileError}
    (unsent : session.store.requestOf call = .error error) :
    (session.step (.call call)).1 = session := by
  simp [step, Session.call, Store.start, unsent]

theorem step_answer_of_none (absent : session.flight? epoch = none)
    (answer : Except EngineError Reply) : session.step (.answer epoch answer) = (session, []) := by
  simp [step, Session.answer, absent]

theorem step_drop_of_none (absent : session.flight? epoch = none) :
    session.step (.drop epoch) = (session, []) := by
  simp [step, Session.drop, absent]

theorem step_answer_ok (found : session.flight? epoch = some flight) (reply : Reply) :
    (session.step (.answer epoch (.ok reply))).1 =
      ⟨{ session.store with
          replica := (session.store.replica.merge session.store.policy flight.epoch
            flight.request reply).replica
          loading := false },
        session.flightsWithout epoch⟩ := by
  simp [step, Session.answer, Store.settle, found]

theorem step_answer_error (found : session.flight? epoch = some flight) (error : EngineError) :
    (session.step (.answer epoch (.error error))).1 =
      ⟨{ session.store with loading := false }, session.flightsWithout epoch⟩ := by
  simp [step, Session.answer, Store.settle, found]

theorem step_drop (found : session.flight? epoch = some flight) :
    (session.step (.drop epoch)).1 =
      ⟨{ session.store with loading := false }, session.flightsWithout epoch⟩ := by
  simp [step, Session.drop, Store.drop, found]

/-! ## Receipts -/

theorem receipt?_of_none (absent : session.flight? epoch = none)
    (answer : Except EngineError Reply) :
    session.receipt? (.answer epoch answer) = none := by
  cases answer <;> simp [receipt?, absent]

/-- A receipt says how the reply to its request is merged. -/
theorem receipt?_of_some (found : session.flight? epoch = some flight) (reply : Reply) :
    ∃ stale, session.receipt? (.answer epoch (.ok reply)) =
        some ⟨flight.epoch, flight.request, reply, session.store.snapshot,
          (session.store.replica.merge session.store.policy flight.epoch flight.request
            reply).written,
          (session.store.replica.merge session.store.policy flight.epoch flight.request
            reply).refused, stale⟩ ∧
      (stale = true ↔ (session.store.replica.merge session.store.policy flight.epoch
        flight.request reply).refused ≠ []) := by
  have reports : (session.step (.answer epoch (.ok reply))).2 =
      (session.store.settle flight (.ok reply)).reports := by
    simp [step, Session.answer, found]
  refine ⟨Report.stale ∈ (session.step (.answer epoch (.ok reply))).2, ?_, ?_⟩
  · simp [receipt?, found]
  · rw [decide_eq_true_eq, reports]
    exact session.store.stale_mem_settle_iff flight reply

theorem run_cons (session : Session) (event : Event) (rest : List Event) :
    session.run (event :: rest) = (session.step event).1.run rest := rfl

theorem run_append (session : Session) (front back : List Event) :
    session.run (front ++ back) = (session.run front).run back :=
  List.foldl_append

theorem receipts_cons (session : Session) (event : Event) (rest : List Event) :
    session.receipts (event :: rest) =
      (session.receipt? event).toList ++ (session.step event).1.receipts rest := rfl

theorem receipts_append (session : Session) (front back : List Event) :
    session.receipts (front ++ back) =
      session.receipts front ++ (session.run front).receipts back := by
  induction front generalizing session with
  | nil => rfl
  | cons event rest ih =>
      rw [List.cons_append, receipts_cons, receipts_cons, ih, List.append_assoc, run_cons]

/-- A reply that is still to be merged answers a call in flight or one to come. -/
theorem epoch_of_mem_receipts {events : List Event} {receipt : Receipt}
    (merged : receipt ∈ session.receipts events) :
    (∃ flight ∈ session.flights, flight.epoch = receipt.epoch) ∨
      session.store.epoch < receipt.epoch := by
  induction events generalizing session with
  | nil => exact absurd merged List.not_mem_nil
  | cons event rest ih =>
      have moves := session.step_moves event
      rw [receipts_cons] at merged
      generalize (session.step event).1 = next at moves merged ih
      generalize session.receipt? event = receipt? at moves merged
      cases moves with
      | rests flights epoch replica =>
          have := @ih next merged
          rwa [flights, epoch] at this
      | starts flight new flights epoch replica =>
          rcases @ih next merged with ⟨flying, member, same⟩ | later
          · rw [flights, List.mem_append, List.mem_singleton] at member
            rcases member with old | rfl
            · exact .inl ⟨flying, old, same⟩
            · right
              omega
          · right
            omega
      | ends ended flights epoch replica =>
          rcases @ih next merged with ⟨flying, member, same⟩ | later
          · rw [flights] at member
            exact .inl ⟨flying, (List.mem_filter.mp member).1, same⟩
          · exact .inr (epoch ▸ later)
      | merges flight first member flights epoch answered before replica written refused stale =>
          rcases List.mem_append.mp merged with now | later
          · have same : receipt = first := List.mem_singleton.mp now
            exact .inl ⟨flight, member, same ▸ answered.symm⟩
          · rcases @ih next later with ⟨flying, member, same⟩ | after
            · rw [flights] at member
              exact .inl ⟨flying, (List.mem_filter.mp member).1, same⟩
            · exact .inr (epoch ▸ after)

/-! ## What a run lets see -/

/-- The replies that a run merges, each with what is cached right after it. -/
def landings (session : Session) : List Event → List (Receipt × Snapshot)
  | [] => []
  | event :: rest =>
    let next := (session.step event).1
    ((session.receipt? event).map fun receipt => (receipt, next.store.snapshot)).toList ++
      next.landings rest

theorem landings_cons (session : Session) (event : Event) (rest : List Event) :
    session.landings (event :: rest) =
      session.landings [event] ++ (session.step event).1.landings rest := by
  simp [landings]

theorem landings_append (session : Session) (front back : List Event) :
    session.landings (front ++ back) =
      session.landings front ++ (session.run front).landings back := by
  induction front generalizing session with
  | nil => rfl
  | cons event rest ih =>
      rw [List.cons_append, landings, landings, ih, List.append_assoc, run_cons]

/-- All that is told in the course of a run. -/
def told (session : Session) : List Event → List Report
  | [] => []
  | event :: rest => (session.step event).2 ++ (session.step event).1.told rest

theorem stale_mem_step_iff (session : Session) (event : Event) :
    Report.stale ∈ (session.step event).2 ↔
      ∃ receipt ∈ session.receipt? event, receipt.refused ≠ [] := by
  cases event with
  | call call =>
      have quiet : Report.stale ∉ (session.step (.call call)).2 := by
        cases sent : session.store.requestOf call <;>
          simp [step, Session.call, Store.start, sent]
      simp [quiet, receipt?]
  | answer epoch answer =>
      cases found : session.flight? epoch with
      | none => simp [step_answer_of_none found, receipt?_of_none found]
      | some flight =>
          cases answer with
          | error error => simp [step, Session.answer, found, Store.settle, receipt?]
          | ok reply =>
              have settled : (session.step (.answer epoch (.ok reply))).2 =
                  (session.store.settle flight (.ok reply)).reports := by
                simp [step, Session.answer, found]
              obtain ⟨stale, merged, -⟩ := receipt?_of_some found reply
              rw [settled, merged, session.store.stale_mem_settle_iff flight reply]
              simp
  | drop epoch => simp [step, receipt?]

/-- Nothing is told to be stale but a reply that is refused in part. -/
theorem stale_mem_told_iff {events : List Event} :
    Report.stale ∈ session.told events ↔
      ∃ receipt ∈ session.receipts events, receipt.refused ≠ [] := by
  induction events generalizing session with
  | nil => simp [told, receipts]
  | cons event rest ih =>
      rw [told, List.mem_append, receipts_cons, ih, stale_mem_step_iff]
      simp only [List.mem_append, Option.mem_toList, Option.mem_def, or_and_right, exists_or]

end Session

end Workflow
