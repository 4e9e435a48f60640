import Workflow.Proofs.Cache.Landings
import Mathlib.Data.List.Induction

/-!
# The turns of calls

A call is started when its request goes out, and it ends when the request is answered or given
up. These are its turns, and a run of a session has them in the order of its events. Each call
ends at most once, and those in flight are the ones that were started and have not ended.

The loading flag knows the last of these turns only. It is set if that was a start, so it is
never left set without a call in flight, but it may be cleared while there are some.
-/

namespace Workflow

/-- What an event is to a call. -/
inductive Turn where
  /-- The request of the call goes out. -/
  | sent (flight : Flight)
  /-- The call has no request to send, since its graph does not compile. -/
  | withheld (operation : Operation) (error : CompileError)
  /-- The engine answers the request of the call. -/
  | answered (flight : Flight) (answer : Except EngineError Reply)
  /-- The call is given up. -/
  | dropped (flight : Flight)

namespace Turn

/-- The call that starts. -/
def started? : Turn → Option Flight
  | sent flight => some flight
  | _ => none

/-- The call that ends. -/
def ended? : Turn → Option Flight
  | answered flight _ | dropped flight => some flight
  | _ => none

end Turn

namespace Session

/-- The turn of a call that an event is, if there is such a call. -/
def turn? (session : Session) : Event → Option Turn
  | .call call =>
    match session.store.requestOf call with
    | .ok request => some (.sent ⟨session.store.epoch + 1, call, request⟩)
    | .error error => some (.withheld session.store.saveOperation error)
  | .answer epoch answer => (session.flight? epoch).map fun flight => .answered flight answer
  | .drop epoch => (session.flight? epoch).map .dropped

/-- The turns of a run. -/
def turns (session : Session) : List Event → List Turn
  | [] => []
  | event :: rest => (session.turn? event).toList ++ (session.step event).1.turns rest

theorem turns_append (session : Session) (front back : List Event) :
    session.turns (front ++ back) = session.turns front ++ (session.run front).turns back := by
  induction front generalizing session with
  | nil => rfl
  | cons event rest ih =>
      rw [List.cons_append, turns, turns, ih, List.append_assoc, run_cons]

theorem turns_append_singleton (session : Session) (front : List Event) (last : Event) :
    session.turns (front ++ [last]) =
      session.turns front ++ ((session.run front).turn? last).toList := by
  rw [turns_append, turns, turns, List.append_nil]

theorem run_append_singleton (session : Session) (front : List Event) (last : Event) :
    session.run (front ++ [last]) = ((session.run front).step last).1 :=
  session.run_append front [last]

/-- What a turn does to the epochs, the flights and the loading flag. -/
inductive Proceeds (session next : Session) : Option Turn → Prop
  | rests : next = session → Proceeds session next none
  | withholds (operation : Operation) (error : CompileError) : next = session →
      Proceeds session next (some (.withheld operation error))
  | starts (flight : Flight) : flight.epoch = session.store.epoch + 1 →
      next.flights = session.flights ++ [flight] → next.store.epoch = session.store.epoch + 1 →
      next.store.loading = true → Proceeds session next (some (.sent flight))
  | ends (turn : Turn) (flight : Flight) : turn.ended? = some flight →
      flight ∈ session.flights → next.flights = session.flightsWithout flight.epoch →
      next.store.epoch = session.store.epoch → next.store.loading = false →
      Proceeds session next (some turn)

theorem step_proceeds (session : Session) (event : Event) :
    session.Proceeds (session.step event).1 (session.turn? event) := by
  cases event with
  | call call =>
      cases sent : session.store.requestOf call with
      | ok request =>
          rw [step_call_of_ok sent, turn?, sent]
          exact .starts _ rfl rfl rfl rfl
      | error error =>
          rw [step_call_of_error sent, turn?, sent]
          exact .withholds _ _ rfl
  | answer epoch answer =>
      cases found : session.flight? epoch with
      | none =>
          rw [step_answer_of_none found, turn?, found]
          exact .rests rfl
      | some flight =>
          obtain ⟨member, rfl⟩ := flight?_eq_some found
          rw [turn?, found]
          cases answer with
          | ok reply =>
              rw [step_answer_ok found]
              exact .ends _ flight rfl member rfl rfl rfl
          | error error =>
              rw [step_answer_error found]
              exact .ends _ flight rfl member rfl rfl rfl
  | drop epoch =>
      cases found : session.flight? epoch with
      | none =>
          rw [step_drop_of_none found, turn?, found]
          exact .rests rfl
      | some flight =>
          obtain ⟨member, rfl⟩ := flight?_eq_some found
          rw [turn?, found, step_drop found]
          exact .ends _ flight rfl member rfl rfl rfl

/-! ## Calls in flight -/

/-- Turns account for the calls in flight: each was started once, and those that have ended
ended once. -/
structure Tracks (session : Session) (past : List Turn) : Prop where
  flights_iff : ∀ flight, flight ∈ session.flights ↔
    .sent flight ∈ past ∧ ∀ turn ∈ past, turn.ended? ≠ some flight
  epochs_nodup : (session.flights.map Flight.epoch).Nodup
  started_le : ∀ flight, .sent flight ∈ past → flight.epoch ≤ session.store.epoch
  ended_started : ∀ turn ∈ past, ∀ flight, turn.ended? = some flight → .sent flight ∈ past
  ended_nodup : (past.filterMap Turn.ended?).Nodup

variable {session next : Session} {past : List Turn}

/-- Before any call there is nothing in flight. -/
theorem tracks_ofStore (store : Store) : (ofStore store).Tracks [] where
  flights_iff flight := by simp [ofStore]
  epochs_nodup := List.nodup_nil
  started_le flight absent := absurd absent List.not_mem_nil
  ended_started turn absent := absurd absent List.not_mem_nil
  ended_nodup := List.nodup_nil

theorem Tracks.withhold (tracks : session.Tracks past) (operation : Operation)
    (error : CompileError) : session.Tracks (past ++ [.withheld operation error]) where
  flights_iff flight := by
    simp only [tracks.flights_iff, List.mem_append, List.mem_singleton, reduceCtorEq, or_false,
      or_imp, forall_and, forall_eq]
    simp [Turn.ended?]
  epochs_nodup := tracks.epochs_nodup
  started_le flight member := by
    simp only [List.mem_append, List.mem_singleton, reduceCtorEq, or_false] at member
    exact tracks.started_le flight member
  ended_started turn member flight ended := by
    rcases List.mem_append.mp member with old | new
    · exact List.mem_append_left _ (tracks.ended_started turn old flight ended)
    · rw [List.mem_singleton.mp new] at ended
      cases ended
  ended_nodup := by
    rw [List.filterMap_append, List.filterMap_cons_none rfl, List.filterMap_nil, List.append_nil]
    exact tracks.ended_nodup

theorem Tracks.start (tracks : session.Tracks past) {flight : Flight}
    (new : flight.epoch = session.store.epoch + 1)
    (flights : next.flights = session.flights ++ [flight])
    (epoch : next.store.epoch = session.store.epoch + 1) :
    next.Tracks (past ++ [.sent flight]) where
  flights_iff other := by
    -- a call under a new epoch cannot have ended already
    have unended : ∀ turn ∈ past, turn.ended? ≠ some flight := by
      intro turn member ended
      have := tracks.started_le flight (tracks.ended_started turn member flight ended)
      omega
    rw [flights, List.mem_append, List.mem_singleton, tracks.flights_iff]
    simp only [List.mem_append, List.mem_singleton, Turn.sent.injEq, or_imp, forall_and, forall_eq]
    constructor
    · rintro (⟨started, still⟩ | rfl)
      · exact ⟨.inl started, still, by simp [Turn.ended?]⟩
      · exact ⟨.inr rfl, unended, by simp [Turn.ended?]⟩
    · rintro ⟨started | rfl, still, -⟩
      · exact .inl ⟨started, still⟩
      · exact .inr rfl
  epochs_nodup := by
    rw [flights, List.map_append]
    refine List.nodup_append.mpr ⟨tracks.epochs_nodup, List.nodup_singleton _, ?_⟩
    intro old listed last isLast same
    obtain ⟨other, member, rfl⟩ := List.mem_map.mp listed
    have := tracks.started_le other ((tracks.flights_iff other).mp member).1
    have : last = flight.epoch := List.mem_singleton.mp isLast
    omega
  started_le other member := by
    simp only [List.mem_append, List.mem_singleton, Turn.sent.injEq] at member
    rcases member with old | rfl
    · have := tracks.started_le other old
      omega
    · omega
  ended_started turn member other ended := by
    rcases List.mem_append.mp member with old | last
    · exact List.mem_append_left _ (tracks.ended_started turn old other ended)
    · rw [List.mem_singleton.mp last] at ended
      cases ended
  ended_nodup := by
    rw [List.filterMap_append, List.filterMap_cons_none rfl, List.filterMap_nil, List.append_nil]
    exact tracks.ended_nodup

theorem Tracks.finish (tracks : session.Tracks past) {turn : Turn} {flight : Flight}
    (ended : turn.ended? = some flight) (member : flight ∈ session.flights)
    (flights : next.flights = session.flightsWithout flight.epoch)
    (epoch : next.store.epoch = session.store.epoch) : next.Tracks (past ++ [turn]) where
  flights_iff other := by
    have unstarted : .sent other ≠ turn := by
      rintro rfl
      cases ended
    rw [flights, flightsWithout, List.mem_filter, tracks.flights_iff]
    simp only [List.mem_append, List.mem_singleton, unstarted, or_false, or_imp, forall_and,
      forall_eq, ended, and_assoc, decide_eq_true_eq, ne_eq, Option.some.injEq]
    refine and_congr_right fun started => and_congr_right fun still => not_congr ?_
    constructor
    · intro same
      -- two calls in flight under one epoch are the same call
      have both := (tracks.flights_iff other).mpr ⟨started, still⟩
      exact List.inj_on_of_nodup_map tracks.epochs_nodup member both same.symm
    · rintro rfl
      rfl
  epochs_nodup := by
    rw [flights]
    exact tracks.epochs_nodup.sublist (List.filter_sublist.map _)
  started_le other started := by
    rw [epoch]
    rcases List.mem_append.mp started with old | last
    · exact tracks.started_le other old
    · rw [← List.mem_singleton.mp last] at ended
      cases ended
  ended_started other listed call calls := by
    apply List.mem_append_left
    rcases List.mem_append.mp listed with old | last
    · exact tracks.ended_started other old call calls
    · rw [List.mem_singleton.mp last, ended] at calls
      cases calls
      exact ((tracks.flights_iff flight).mp member).1
  ended_nodup := by
    have once : flight ∉ past.filterMap Turn.ended? := by
      intro before
      obtain ⟨other, old, same⟩ := List.mem_filterMap.mp before
      exact ((tracks.flights_iff flight).mp member).2 other old same
    rw [List.filterMap_append, List.filterMap_cons, ended, List.filterMap_nil]
    refine List.nodup_append.mpr ⟨tracks.ended_nodup, List.nodup_singleton _, ?_⟩
    intro other before last isLast same
    exact once (List.mem_singleton.mp isLast ▸ same ▸ before)

theorem Tracks.step (tracks : session.Tracks past) (event : Event) :
    (session.step event).1.Tracks (past ++ (session.turn? event).toList) := by
  have proceeds := session.step_proceeds event
  generalize (session.step event).1 = next at proceeds ⊢
  generalize session.turn? event = turn? at proceeds ⊢
  cases proceeds with
  | rests same =>
      rw [same, Option.toList_none, List.append_nil]
      exact tracks
  | withholds operation error same =>
      rw [same]
      exact tracks.withhold operation error
  | starts flight new flights epoch loading => exact tracks.start new flights epoch
  | ends turn flight ended member flights epoch loading =>
      exact tracks.finish ended member flights epoch

/-- Whatever happens, the turns of a run account for the calls in flight after it. -/
theorem tracks_run (store : Store) (events : List Event) :
    ((ofStore store).run events).Tracks ((ofStore store).turns events) := by
  induction events using List.reverseRecOn with
  | nil => exact tracks_ofStore store
  | append_singleton front last ih =>
      rw [run_append_singleton, turns_append_singleton]
      exact ih.step last

/-! ## The loading flag -/

/-- Some call was started, and none has ended since the most recent start. -/
def Underway (turns : List Turn) : Prop :=
  ∃ before flight after, turns = before ++ .sent flight :: after ∧
    ∀ turn ∈ after, turn.started? = none ∧ turn.ended? = none

theorem underway_start (past : List Turn) (flight : Flight) : Underway (past ++ [.sent flight]) :=
  ⟨past, flight, [], rfl, fun _ absent => absurd absent List.not_mem_nil⟩

/-- A turn that starts no call changes nothing if it ends none either. -/
theorem underway_append_iff {turn : Turn} (unstarted : turn.started? = none) :
    Underway (past ++ [turn]) ↔ turn.ended? = none ∧ Underway past := by
  constructor
  · rintro ⟨before, flight, after, split, quiet⟩
    rcases List.eq_nil_or_concat after with rfl | ⟨middle, last, rfl⟩
    · obtain ⟨-, same⟩ := List.append_inj' split rfl
      cases same
      cases unstarted
    · rw [List.concat_eq_append] at split quiet
      rw [← List.cons_append, ← List.append_assoc] at split
      obtain ⟨rfl, same⟩ := List.append_inj' split rfl
      cases same
      refine ⟨(quiet turn (by simp)).2, before, flight, middle, rfl, ?_⟩
      intro other member
      exact quiet other (List.mem_append_left _ member)
  · rintro ⟨unended, before, flight, after, rfl, quiet⟩
    refine ⟨before, flight, after ++ [turn], by simp, ?_⟩
    intro other member
    rcases List.mem_append.mp member with old | last
    · exact quiet other old
    · exact List.mem_singleton.mp last ▸ ⟨unstarted, unended⟩

/-- The loading flag tells whether the last turn of all was a start, and is never set while
nothing is in flight. -/
structure Signals (session : Session) (past : List Turn) : Prop where
  loading_iff : session.store.loading = true ↔ Underway past
  busy : session.store.loading = true → session.flights ≠ []

theorem Signals.step (signals : session.Signals past) (event : Event) :
    (session.step event).1.Signals (past ++ (session.turn? event).toList) := by
  have proceeds := session.step_proceeds event
  generalize (session.step event).1 = next at proceeds ⊢
  generalize session.turn? event = turn? at proceeds ⊢
  cases proceeds with
  | rests same =>
      rw [same, Option.toList_none, List.append_nil]
      exact signals
  | withholds operation error same =>
      rw [same]
      refine ⟨?_, signals.busy⟩
      rw [Option.toList_some, underway_append_iff rfl, signals.loading_iff]
      exact (and_iff_right rfl).symm
  | starts flight new flights epoch loading =>
      refine ⟨iff_of_true loading (underway_start past flight), ?_⟩
      rw [flights]
      exact fun _ => List.append_ne_nil_of_right_ne_nil _ (List.cons_ne_nil _ _)
  | ends turn flight ended member flights epoch loading =>
      have unstarted : turn.started? = none := by
        cases turn with
        | sent other => cases ended
        | _ => rfl
      refine ⟨?_, fun set => by rw [loading] at set; cases set⟩
      rw [loading, Option.toList_some, underway_append_iff unstarted, ended]
      simp

theorem signals_run {store : Store} (idle : store.loading = false) (events : List Event) :
    ((ofStore store).run events).Signals ((ofStore store).turns events) := by
  induction events using List.reverseRecOn with
  | nil =>
      refine ⟨iff_of_false (by simp [run, ofStore, idle]) ?_, fun set => ?_⟩
      · rintro ⟨before, flight, after, split, -⟩
        simp [turns] at split
      · simp [run, ofStore, idle] at set
  | append_singleton front last ih =>
      rw [run_append_singleton, turns_append_singleton]
      exact ih.step last

/-- The loading flag is set exactly if some call was started and none has ended since the most
recent start, however calls overlap and however they end. Then a call is in flight, which is to
say that it was started and has not ended, and without one the flag is never set. It may be
cleared while a call is in flight. -/
theorem loading_iff_underway (policy : MergePolicy) (order : StepOrder) :
    let start := ofStore (.empty policy order)
    (∀ events,
      ((start.run events).store.loading = true ↔ Underway (start.turns events)) ∧
      (∀ flight, flight ∈ (start.run events).flights ↔ .sent flight ∈ start.turns events ∧
        ∀ turn ∈ start.turns events, turn.ended? ≠ some flight) ∧
      ((start.run events).store.loading = true → (start.run events).flights ≠ []) ∧
      ((start.run events).flights = [] → (start.run events).store.loading = false)) ∧
    ∃ events, (start.run events).store.loading = false ∧ (start.run events).flights ≠ [] := by
  intro start
  constructor
  · intro events
    have signals : (start.run events).Signals (start.turns events) := signals_run rfl events
    have tracks : (start.run events).Tracks (start.turns events) := tracks_run _ events
    refine ⟨signals.loading_iff, tracks.flights_iff, signals.busy, ?_⟩
    intro none
    exact Bool.eq_false_iff.mpr fun set => signals.busy set none
  · -- the first of two calls is given up
    exact ⟨[.call (.request .list), .call (.request .list), .drop 1], rfl, List.cons_ne_nil _ _⟩

end Session

end Workflow
