import Mathlib.Data.Nat.Count
import Workflow.Proofs.Cache.Landings

/-!
# Calls that cache nothing

A call leaves no trace on the others if its reply cannot be cached, or if no reply to it
is merged at all. Leaving such calls out of a run changes the epochs of those that remain,
but not which of two was issued first, and a merge asks for nothing else.

The proof follows both runs at once. They are in step while the shorter one has in flight
what the longer one has of the calls that remain, the same is cached in both, and the
marks of the one say what the log of the other says under the new numbers.
-/

namespace Workflow

/-- A reply to a request can be cached. -/
def Request.caches : Request → Bool
  | .execute .. | .runs => false
  | _ => true

theorem Request.writes_of_not_caches {request : Request} (idle : request.caches = false)
    (snapshot : Snapshot) (reply : Reply) : request.writes snapshot reply = [] := by
  cases request with
  | execute name context => rfl
  | runs => rfl
  | _ => cases idle

/-! ## Numbering what remains -/

/-- How many of the calls that are kept are issued up to an epoch. That is the number of the
last of them when no others are issued. -/
def rank (kept : List Nat) (epoch : Nat) : Nat :=
  Nat.count (fun earlier => earlier + 1 ∈ kept) epoch

theorem rank_succ_of_mem {kept : List Nat} {epoch : Nat} (mem : epoch + 1 ∈ kept) :
    rank kept (epoch + 1) = rank kept epoch + 1 :=
  Nat.count_succ_eq_succ_count_iff.mpr mem

theorem rank_succ_of_not_mem {kept : List Nat} {epoch : Nat} (out : epoch + 1 ∉ kept) :
    rank kept (epoch + 1) = rank kept epoch :=
  Nat.count_succ_eq_count_iff.mpr out

/-- Calls that are kept keep their order. -/
theorem rank_le_rank_iff {kept : List Nat} {first second : Nat} (mem : first ∈ kept)
    (pos : 0 < first) : rank kept first ≤ rank kept second ↔ first ≤ second := by
  constructor
  · intro le
    by_contra later
    have counted : first - 1 + 1 ∈ kept := by
      rwa [Nat.sub_add_cancel pos]
    have upTo : rank kept second ≤ rank kept (first - 1) :=
      Nat.count_monotone _ (by omega)
    have below : rank kept (first - 1) < rank kept first :=
      Nat.count_strict_mono counted (by omega)
    omega
  · intro le
    exact Nat.count_monotone _ le

theorem rank_injective {kept : List Nat} {first second : Nat} (mem : first ∈ kept)
    (pos : 0 < first) (other : second ∈ kept) (otherPos : 0 < second) :
    rank kept first = rank kept second ↔ first = second := by
  rw [Nat.le_antisymm_iff, Nat.le_antisymm_iff, rank_le_rank_iff mem pos,
    rank_le_rank_iff other otherPos]

/-- A flight under another number. -/
def Flight.renumber (number : Nat → Nat) (flight : Flight) : Flight :=
  { flight with epoch := number flight.epoch }

/-- A receipt under another number. -/
def Receipt.renumber (number : Nat → Nat) (receipt : Receipt) : Receipt :=
  { receipt with epoch := number receipt.epoch }

namespace Session

/-- An event with the call that it ends under another number. -/
def Event.renumber (number : Nat → Nat) : Event → Event
  | .call made => .call made
  | .answer epoch outcome => .answer (number epoch) outcome
  | .drop epoch => .drop (number epoch)

/-- The epoch of the call that an event starts or ends, if there is one. -/
def epochOf? (session : Session) : Event → Option Nat
  | .call call => (session.call call).2.2.toOption.map Flight.epoch
  | .answer epoch _ | .drop epoch => some epoch

/-- What is left of an event if only the calls that are kept are made. -/
def retained (kept : List Nat) (session : Session) (event : Event) : List Event :=
  if (session.epochOf? event).any (· ∈ kept) then [event.renumber (rank kept)] else []

/-- A run without the calls that are not kept. -/
def erase (kept : List Nat) (session : Session) : List Event → List Event
  | [] => []
  | event :: rest => session.retained kept event ++ (session.step event).1.erase kept rest

/-- The epochs of the calls of a run whose replies are merged and can be cached. -/
def remaining (session : Session) (events : List Event) : List Nat :=
  ((session.receipts events).filter (·.request.caches)).map Receipt.epoch

variable {kept : List Nat} {session thin next : Session} {past : List Receipt}
  {event : Event} {rest : List Event} {epoch : Nat}

/-! ## What becomes of a call -/

/-- Of the calls that are in flight or still to come, those are kept whose replies are going
to be merged and can be cached. -/
def Foresees (kept : List Nat) (session : Session) (events : List Event) : Prop :=
  ∀ epoch, (∃ flight ∈ session.flights, flight.epoch = epoch) ∨ session.store.epoch < epoch →
    (epoch ∈ kept ↔
      ∃ receipt ∈ session.receipts events, receipt.epoch = epoch ∧ receipt.request.caches = true)

theorem Foresees.step (foresees : Foresees kept session (event :: rest))
    (bounded : ∀ flight ∈ session.flights, flight.epoch ≤ session.store.epoch) :
    Foresees kept (session.step event).1 rest := by
  intro epoch ahead
  have moves := session.step_moves event
  have foreseen := foresees epoch
  rw [receipts_cons] at foreseen
  generalize (session.step event).1 = next at moves ahead foreseen
  generalize session.receipt? event = receipt? at moves foreseen
  cases moves with
  | rests flights same replica =>
      rw [flights, same] at ahead
      exact foreseen ahead
  | starts flight new flights same replica =>
      apply foreseen
      rcases ahead with ⟨flying, member, equal⟩ | later
      · rw [flights, List.mem_append, List.mem_singleton] at member
        rcases member with old | rfl
        · exact .inl ⟨flying, old, equal⟩
        · right
          omega
      · right
        omega
  | ends ended flights same replica =>
      apply foreseen
      rcases ahead with ⟨flying, member, equal⟩ | later
      · rw [flights] at member
        exact .inl ⟨flying, (List.mem_filter.mp member).1, equal⟩
      · exact .inr (same ▸ later)
  | merges flight first member flights same answered before replica written refused stale =>
      have elsewhere : first.epoch ≠ epoch ∧
          ((∃ flight ∈ session.flights, flight.epoch = epoch) ∨ session.store.epoch < epoch) := by
        rcases ahead with ⟨flying, still, rfl⟩ | later
        · rw [flights] at still
          obtain ⟨old, different⟩ := List.mem_filter.mp still
          rw [answered]
          exact ⟨fun equal => of_decide_eq_true different equal.symm, .inl ⟨flying, old, rfl⟩⟩
        · have := bounded flight member
          constructor
          · omega
          · right
            omega
      rw [foreseen elsewhere.2]
      constructor
      · rintro ⟨receipt, merged, equal, caches⟩
        rcases List.mem_append.mp merged with now | later
        · rw [List.mem_singleton.mp now] at equal
          exact absurd equal elsewhere.1
        · exact ⟨receipt, later, equal, caches⟩
      · rintro ⟨receipt, merged, equal, caches⟩
        exact ⟨receipt, List.mem_append_right _ merged, equal, caches⟩

/-- A call that ends is kept if its reply is merged then and can be cached. -/
theorem Foresees.mem_iff_of_ended (foresees : Foresees kept session (event :: rest))
    (bounded : ∀ flight ∈ session.flights, flight.epoch ≤ session.store.epoch)
    {flight : Flight} (found : session.flight? epoch = some flight)
    (flights : (session.step event).1.flights = session.flightsWithout epoch)
    (same : (session.step event).1.store.epoch = session.store.epoch) :
    epoch ∈ kept ↔ ∃ receipt ∈ session.receipt? event,
      receipt.epoch = epoch ∧ receipt.request.caches = true := by
  obtain ⟨member, rfl⟩ := flight?_eq_some found
  rw [foresees flight.epoch (.inl ⟨flight, member, rfl⟩), receipts_cons]
  constructor
  · rintro ⟨receipt, merged, equal, caches⟩
    rcases List.mem_append.mp merged with now | later
    · exact ⟨receipt, Option.mem_toList.mp now, equal, caches⟩
    · exfalso
      have le := bounded flight member
      rcases epoch_of_mem_receipts later with ⟨flying, still, again⟩ | after
      · rw [flights] at still
        exact of_decide_eq_true (List.mem_filter.mp still).2 (again.trans equal)
      · omega
  · rintro ⟨receipt, now, equal, caches⟩
    exact ⟨receipt, List.mem_append_left _ (Option.mem_toList.mpr now), equal, caches⟩

/-! ## Two runs in step -/

/-- Two sessions are in step, the second of which has only the calls that are kept. -/
structure InStep (kept : List Nat) (session thin : Session) (past : List Receipt) : Prop where
  positive : ∀ epoch ∈ kept, 0 < epoch
  policy : thin.store.policy = session.store.policy
  order : thin.store.order = session.store.order
  epoch : thin.store.epoch = rank kept session.store.epoch
  flights : thin.flights =
    (session.flights.filter (·.epoch ∈ kept)).map (Flight.renumber (rank kept))
  snapshot : thin.store.snapshot = session.store.snapshot
  covers : thin.store.replica.marks.Covers
    ((Receipt.logAll past).map (Prod.map (rank kept) id))
  logged : ∀ entry ∈ Receipt.logAll past, entry.1 ∈ kept

namespace InStep

/-- A call that is kept is in flight in both sessions or in neither. -/
theorem flight? (inStep : InStep kept session thin past) (mem : epoch ∈ kept) :
    thin.flight? (rank kept epoch) =
      (session.flight? epoch).map (Flight.renumber (rank kept)) := by
  rw [Session.flight?, Session.flight?, inStep.flights, List.find?_map, List.find?_filter]
  congr 2
  funext flight
  by_cases flying : flight.epoch ∈ kept
  · have same := rank_injective flying (inStep.positive _ flying) mem (inStep.positive _ mem)
    simp [flying, Flight.renumber, same]
  · have different : flight.epoch ≠ epoch := fun equal => flying (equal ▸ mem)
    simp [flying, different]

theorem flightsWithout (inStep : InStep kept session thin past) (mem : epoch ∈ kept) :
    thin.flightsWithout (rank kept epoch) =
      ((session.flightsWithout epoch).filter (·.epoch ∈ kept)).map
        (Flight.renumber (rank kept)) := by
  rw [Session.flightsWithout, Session.flightsWithout, inStep.flights, List.filter_map,
    List.filter_filter, List.filter_filter]
  congr 2
  funext flight
  by_cases flying : flight.epoch ∈ kept
  · have same := rank_injective flying (inStep.positive _ flying) mem (inStep.positive _ mem)
    simp [flying, Flight.renumber, same]
  · simp [flying]

/-- Of a call that is kept, both sessions agree to which parts it comes too late. -/
theorem mark_le_iff (inStep : InStep kept session thin past)
    (covers : session.store.replica.marks.Covers (Receipt.logAll past)) (part : Part) :
    session.store.replica.marks.mark part ≤ epoch ↔
      thin.store.replica.marks.mark part ≤ rank kept epoch := by
  rw [covers.mark_le_iff, inStep.covers.mark_le_iff]
  have numbered : ∀ entry ∈ Receipt.logAll past,
      rank kept entry.1 ≤ rank kept epoch ↔ entry.1 ≤ epoch := by
    intro entry member
    have mem := inStep.logged entry member
    exact rank_le_rank_iff mem (inStep.positive _ mem)
  rw [WriteLog.UpTo, WriteLog.UpTo, List.forall_mem_map]
  constructor
  · intro upTo entry member overlap
    exact (numbered entry member).mpr (upTo entry member overlap)
  · intro upTo entry member overlap
    exact (numbered entry member).mp (upTo entry member overlap)

/-- What happens to calls that are not kept leaves the sessions in step. -/
theorem of_unkept (inStep : InStep kept session thin past)
    (policy : next.store.policy = session.store.policy)
    (order : next.store.order = session.store.order)
    (epoch : rank kept next.store.epoch = rank kept session.store.epoch)
    (flights : next.flights.filter (·.epoch ∈ kept) = session.flights.filter (·.epoch ∈ kept))
    (snapshot : next.store.snapshot = session.store.snapshot) : InStep kept next thin past where
  positive := inStep.positive
  policy := inStep.policy.trans policy.symm
  order := inStep.order.trans order.symm
  epoch := inStep.epoch.trans epoch.symm
  flights := flights ▸ inStep.flights
  snapshot := inStep.snapshot.trans snapshot.symm
  covers := inStep.covers
  logged := inStep.logged

/-- Both sessions judge the reply to a call that is kept alike. -/
theorem merge_alike (inStep : InStep kept session thin past)
    (covers : session.store.replica.marks.Covers (Receipt.logAll past)) (request : Request)
    (reply : Reply) (epoch : Nat) :
    let merged := session.store.replica.merge session.store.policy epoch request reply
    let thinMerged := thin.store.replica.merge thin.store.policy (rank kept epoch) request reply
    thinMerged.written = merged.written ∧ thinMerged.refused = merged.refused ∧
      thinMerged.replica.snapshot = merged.replica.snapshot := by
  intro merged thinMerged
  have same : thin.store.replica.snapshot = session.store.replica.snapshot := inStep.snapshot
  have asked : request.writes thin.store.replica.snapshot reply =
      request.writes session.store.replica.snapshot reply := congrArg (request.writes · reply) same
  obtain ⟨written, refused⟩ := @Replica.performAll_congr _ session.store.policy epoch _
    (rank kept epoch) covers.distinct inStep.covers.distinct (inStep.mark_le_iff covers)
    (request.writes session.store.replica.snapshot reply)
  have equal : thinMerged.written = merged.written ∧ thinMerged.refused = merged.refused := by
    simp only [thinMerged, merged, Replica.merge, asked, inStep.policy]
    exact ⟨written.symm, refused.symm⟩
  refine ⟨equal.1, equal.2, ?_⟩
  have after : merged.replica.snapshot =
      merged.written.foldl Snapshot.perform session.store.replica.snapshot :=
    Replica.performAll_snapshot _
  have thinAfter : thinMerged.replica.snapshot =
      thinMerged.written.foldl Snapshot.perform thin.store.replica.snapshot :=
    Replica.performAll_snapshot _
  rw [after, thinAfter, equal.1, same]

/-- A reply to a call that is kept is merged by both sessions and leaves them in step. -/
theorem merge (inStep : InStep kept session thin past)
    (covers : session.store.replica.marks.Covers (Receipt.logAll past)) (mem : epoch ∈ kept)
    {flight : Flight} (found : session.flight? epoch = some flight) (reply : Reply) :
    ∃ receipt, session.receipt? (.answer epoch (.ok reply)) = some receipt ∧
      thin.receipt? (.answer (rank kept epoch) (.ok reply)) =
        some (receipt.renumber (rank kept)) ∧
      InStep kept (session.step (.answer epoch (.ok reply))).1
        (thin.step (.answer (rank kept epoch) (.ok reply))).1 (past ++ [receipt]) := by
  obtain ⟨-, rfl⟩ := flight?_eq_some found
  have thinFound : thin.flight? (rank kept flight.epoch) =
      some (flight.renumber (rank kept)) := by
    rw [inStep.flight? mem, found, Option.map_some]
  obtain ⟨stale, merged, stale_iff⟩ := receipt?_of_some found reply
  obtain ⟨thinStale, thinMerged, thinStale_iff⟩ := receipt?_of_some thinFound reply
  obtain ⟨written, refused, snapshot⟩ := inStep.merge_alike covers flight.request reply
    flight.epoch
  refine ⟨_, merged, ?_, ?_⟩
  · have judged : thinStale = stale := by
      rw [Bool.eq_iff_iff, stale_iff, thinStale_iff]
      exact not_congr (refused ▸ Iff.rfl)
    rw [thinMerged, judged]
    simp only [Receipt.renumber, Flight.renumber, written, refused, inStep.snapshot]
  · have step := step_answer_ok found reply
    have thinStep := step_answer_ok thinFound reply
    constructor
    · exact inStep.positive
    · rw [step, thinStep]
      exact inStep.policy
    · rw [step, thinStep]
      exact inStep.order
    · rw [step, thinStep]
      exact inStep.epoch
    · rw [step, thinStep]
      exact inStep.flightsWithout mem
    · rw [step, thinStep]
      exact snapshot
    · rw [thinStep, Receipt.logAll_append, Receipt.logAll_singleton, List.map_append,
        Receipt.log, List.map_map, ← written]
      exact Replica.performAll_covers inStep.covers _
    · intro entry member
      rw [Receipt.logAll_append, Receipt.logAll_singleton] at member
      rcases List.mem_append.mp member with old | new
      · exact inStep.logged entry old
      · obtain ⟨write, -, rfl⟩ := List.mem_map.mp new
        exact mem

/-! ## One event -/

/-- What is left of an event: itself under the new number of its call, or nothing. -/
theorem retained_cases (kept : List Nat) (session : Session) (event : Event) :
    (∃ epoch ∈ kept, session.epochOf? event = some epoch ∧
        session.retained kept event = [event.renumber (rank kept)]) ∨
      (∀ epoch ∈ kept, session.epochOf? event ≠ some epoch) ∧ session.retained kept event = [] := by
  rw [retained]
  cases session.epochOf? event with
  | none => simp
  | some epoch =>
      by_cases mem : epoch ∈ kept
      · simp [mem]
      · right
        refine ⟨?_, by simp [mem]⟩
        rintro other otherMem same
        exact mem (Option.some.inj same ▸ otherMem)

/-- The replies that one session merges, as the other has them. -/
def thinned (kept : List Nat) (landings : List (Receipt × Snapshot)) : List (Receipt × Snapshot) :=
  (landings.filter (·.1.request.caches)).map (Prod.map (Receipt.renumber (rank kept)) id)

theorem thinned_append (kept : List Nat) (front back : List (Receipt × Snapshot)) :
    thinned kept (front ++ back) = thinned kept front ++ thinned kept back := by
  rw [thinned, thinned, thinned, List.filter_append, List.map_append]

theorem step_call (inStep : InStep kept session thin past) (call : Call) :
    InStep kept (session.step (.call call)).1 (thin.run (session.retained kept (.call call)))
        past ∧
      thin.landings (session.retained kept (.call call)) = [] := by
  cases sent : session.store.requestOf call with
  | error error =>
      have unmade : session.epochOf? (.call call) = none := by
        simp [epochOf?, Session.call, Store.start, sent, Except.toOption]
      rw [retained, unmade, step_call_of_error sent]
      exact ⟨inStep, rfl⟩
  | ok request =>
      have made : session.epochOf? (.call call) = some (session.store.epoch + 1) := by
        simp [epochOf?, Session.call, Store.start, sent, Except.toOption]
      rcases retained_cases kept session (.call call) with
        ⟨epoch, mem, same, left⟩ | ⟨unkept, left⟩
      · rw [made] at same
        cases same
        have number := rank_succ_of_mem mem
        have thinSent : thin.store.requestOf call = .ok request :=
          (Store.requestOf_congr inStep.order inStep.snapshot call).trans sent
        refine ⟨?_, left ▸ rfl⟩
        rw [left, step_call_of_ok sent]
        change InStep kept _ (thin.step (.call call)).1 past
        rw [step_call_of_ok thinSent]
        refine ⟨inStep.positive, inStep.policy, inStep.order, ?_, ?_, inStep.snapshot,
          inStep.covers, inStep.logged⟩
        · rw [number, ← inStep.epoch]
        · rw [List.filter_append, List.map_append, ← inStep.flights]
          simp [mem, Flight.renumber, number, inStep.epoch]
      · have out : session.store.epoch + 1 ∉ kept := fun mem => unkept _ mem made
        refine ⟨?_, left ▸ rfl⟩
        rw [left, step_call_of_ok sent]
        change InStep kept _ thin past
        refine inStep.of_unkept ?_ ?_ ?_ ?_ ?_
        · rfl
        · rfl
        · exact rank_succ_of_not_mem out
        · simp [out]
        · rfl

/-- What ends a call that is in flight in neither session does nothing. -/
theorem step_absent (inStep : InStep kept session thin past) (absent : session.flight? epoch = none)
    {event : Event} (ends : (∃ outcome, event = .answer epoch outcome) ∨ event = .drop epoch) :
    session.receipt? event = none ∧
      InStep kept (session.step event).1 (thin.run (session.retained kept event)) past ∧
      thin.landings (session.retained kept event) = [] := by
  have epochOf : session.epochOf? event = some epoch := by
    rcases ends with ⟨outcome, rfl⟩ | rfl <;> rfl
  have idle : (session.step event).1 = session ∧ session.receipt? event = none := by
    rcases ends with ⟨outcome, rfl⟩ | rfl
    · rw [step_answer_of_none absent, receipt?_of_none absent]
      exact ⟨rfl, rfl⟩
    · rw [step_drop_of_none absent]
      exact ⟨rfl, rfl⟩
  rw [idle.1]
  refine ⟨idle.2, ?_⟩
  suffices unmoved : thin.run (session.retained kept event) = thin ∧
      thin.landings (session.retained kept event) = [] by
    rw [unmoved.1]
    exact ⟨inStep, unmoved.2⟩
  rcases retained_cases kept session event with ⟨other, mem, same, left⟩ | ⟨-, left⟩
  · rw [epochOf] at same
    cases same
    have thinAbsent : thin.flight? (rank kept epoch) = none := by
      rw [inStep.flight? mem, absent, Option.map_none]
    rw [left]
    rcases ends with ⟨outcome, rfl⟩ | rfl
    · simp [landings, Event.renumber, step_answer_of_none thinAbsent,
        receipt?_of_none thinAbsent, run]
    · simp [landings, Event.renumber, step_drop_of_none thinAbsent, receipt?, run]
  · rw [left]
    exact ⟨rfl, rfl⟩

/-- The end of a call that is not kept leaves the sessions in step if nothing is written. -/
theorem of_ended (inStep : InStep kept session thin past) (out : epoch ∉ kept)
    (policy : next.store.policy = session.store.policy)
    (order : next.store.order = session.store.order)
    (same : next.store.epoch = session.store.epoch)
    (flights : next.flights = session.flightsWithout epoch)
    (snapshot : next.store.snapshot = session.store.snapshot) : InStep kept next thin past := by
  refine inStep.of_unkept policy order (congrArg _ same) ?_ snapshot
  rw [flights, Session.flightsWithout, List.filter_filter]
  congr 1
  funext flight
  by_cases flying : flight.epoch ∈ kept
  · have different : flight.epoch ≠ epoch := fun equal => out (equal ▸ flying)
    simp [flying, different]
  · simp [flying]

/-- A receipt of a reply that cannot be cached adds nothing to what was written. -/
theorem of_idle (inStep : InStep kept session thin past) {receipt : Receipt}
    (idle : receipt.log = []) : InStep kept session thin (past ++ [receipt]) := by
  have same : Receipt.logAll (past ++ [receipt]) = Receipt.logAll past := by
    rw [Receipt.logAll_append, Receipt.logAll_singleton, idle, List.append_nil]
  exact { inStep with covers := same ▸ inStep.covers, logged := same ▸ inStep.logged }

theorem step_answer_ok (inStep : InStep kept session thin past) (accounts : session.Accounts past)
    {flight : Flight} (found : session.flight? epoch = some flight) (reply : Reply)
    (foresees : Foresees kept session (.answer epoch (.ok reply) :: rest)) :
    InStep kept (session.step (.answer epoch (.ok reply))).1
        (thin.run (session.retained kept (.answer epoch (.ok reply))))
        (past ++ (session.receipt? (.answer epoch (.ok reply))).toList) ∧
      thin.landings (session.retained kept (.answer epoch (.ok reply))) =
        thinned kept (session.landings [.answer epoch (.ok reply)]) := by
  have step := Session.step_answer_ok found reply
  have fate := foresees.mem_iff_of_ended accounts.flights_le found (by rw [step]) (by rw [step])
  rcases retained_cases kept session (.answer epoch (.ok reply)) with
    ⟨other, mem, same, left⟩ | ⟨unkept, left⟩
  · cases same
    obtain ⟨receipt, merged, thinMerged, after⟩ := inStep.merge accounts.covers mem found reply
    obtain ⟨_, now, -, caches⟩ := fate.mp mem
    rw [merged] at now
    cases now
    rw [left, merged]
    refine ⟨after, ?_⟩
    simp only [landings, merged, thinned, Event.renumber, thinMerged, after.snapshot,
      Option.map_some, Option.toList_some, List.append_nil, List.filter_cons, caches, if_true,
      List.filter_nil, List.map_cons, List.map_nil, Prod.map, id]
  · have out : epoch ∉ kept := fun mem => unkept epoch mem rfl
    obtain ⟨stale, merged, -⟩ := receipt?_of_some found reply
    have idle : flight.request.caches = false := by
      apply Bool.eq_false_iff.mpr
      intro caches
      exact out (fate.mpr ⟨_, merged, (flight?_eq_some found).2, caches⟩)
    have nothing := flight.request.writes_of_not_caches idle session.store.replica.snapshot reply
    rw [left, merged]
    constructor
    · apply of_idle
      · rw [step, Replica.merge, nothing]
        exact inStep.of_ended out rfl rfl rfl rfl rfl
      · rw [Receipt.log, Replica.merge, nothing]
        rfl
    · simp [landings, merged, thinned, idle]

/-- A call that ends without a reply is not kept. -/
theorem step_unanswered (inStep : InStep kept session thin past)
    (accounts : session.Accounts past) {flight : Flight}
    (found : session.flight? epoch = some flight) (ends : session.epochOf? event = some epoch)
    (unmerged : session.receipt? event = none)
    (after : (session.step event).1 =
      ⟨{ session.store with loading := false }, session.flightsWithout epoch⟩)
    (foresees : Foresees kept session (event :: rest)) :
    InStep kept (session.step event).1 (thin.run (session.retained kept event)) past ∧
      thin.landings (session.retained kept event) = [] := by
  have fate := foresees.mem_iff_of_ended accounts.flights_le found (by rw [after]) (by rw [after])
  have out : epoch ∉ kept := by
    intro mem
    obtain ⟨receipt, merged, -⟩ := fate.mp mem
    rw [unmerged] at merged
    cases merged
  rcases retained_cases kept session event with ⟨other, mem, same, left⟩ | ⟨-, left⟩
  · rw [ends] at same
    cases same
    exact absurd mem out
  · rw [left, after]
    exact ⟨inStep.of_ended out rfl rfl rfl rfl rfl, rfl⟩

/-- Whatever happens next, the two sessions stay in step and let the same be seen. -/
theorem step (inStep : InStep kept session thin past) (accounts : session.Accounts past)
    (foresees : Foresees kept session (event :: rest)) :
    InStep kept (session.step event).1 (thin.run (session.retained kept event))
        (past ++ (session.receipt? event).toList) ∧
      thin.landings (session.retained kept event) = thinned kept (session.landings [event]) := by
  have quiet : session.receipt? event = none →
      InStep kept (session.step event).1 (thin.run (session.retained kept event)) past ∧
        thin.landings (session.retained kept event) = [] →
      InStep kept (session.step event).1 (thin.run (session.retained kept event))
          (past ++ (session.receipt? event).toList) ∧
        thin.landings (session.retained kept event) = thinned kept (session.landings [event]) := by
    intro unmerged ⟨after, silent⟩
    rw [unmerged, Option.toList_none, List.append_nil]
    exact ⟨after, by simp [silent, landings, unmerged, thinned]⟩
  cases event with
  | call call => exact quiet rfl (inStep.step_call call)
  | answer epoch outcome =>
      cases found : session.flight? epoch with
      | none =>
          have absent := inStep.step_absent found (.inl ⟨outcome, rfl⟩)
          exact quiet absent.1 absent.2
      | some flight =>
          cases outcome with
          | error error =>
              exact quiet rfl
                (inStep.step_unanswered accounts found rfl rfl (step_answer_error found error)
                  foresees)
          | ok reply => exact inStep.step_answer_ok accounts found reply foresees
  | drop epoch =>
      cases found : session.flight? epoch with
      | none =>
          have absent := inStep.step_absent found (.inr rfl)
          exact quiet absent.1 absent.2
      | some flight =>
          exact quiet rfl
            (inStep.step_unanswered accounts found rfl rfl (step_drop found) foresees)

/-- Two runs stay in step to the end. -/
theorem run (inStep : InStep kept session thin past) (accounts : session.Accounts past)
    {events : List Event} (foresees : Foresees kept session events) :
    InStep kept (session.run events) (thin.run (session.erase kept events))
        (past ++ session.receipts events) ∧
      thin.landings (session.erase kept events) = thinned kept (session.landings events) := by
  induction events generalizing session thin past with
  | nil =>
      rw [receipts, List.append_nil]
      exact ⟨inStep, rfl⟩
  | cons event rest ih =>
      obtain ⟨after, seen⟩ := inStep.step accounts foresees
      obtain ⟨last, later⟩ := ih after (accounts.step event) (foresees.step accounts.flights_le)
      rw [erase, run_append, landings_append, run_cons, receipts_cons, ← List.append_assoc]
      refine ⟨last, ?_⟩
      rw [seen, later, ← thinned_append, ← landings_cons]

end InStep

theorem mem_remaining_iff {events : List Event} : epoch ∈ session.remaining events ↔
    ∃ receipt ∈ session.receipts events,
      receipt.epoch = epoch ∧ receipt.request.caches = true := by
  simp only [remaining, List.mem_map, List.mem_filter, and_assoc, and_comm]

theorem inStep_empty (policy : MergePolicy) (order : StepOrder) (events : List Event) :
    let session := ofStore (.empty policy order)
    InStep (session.remaining events) session session [] := by
  intro session
  refine ⟨?_, rfl, rfl, rfl, rfl, rfl, Watermarks.covers_zero, ?_⟩
  · intro epoch mem
    obtain ⟨receipt, merged, rfl, -⟩ := mem_remaining_iff.mp mem
    rcases epoch_of_mem_receipts merged with ⟨flight, member, -⟩ | pos
    · exact absurd member List.not_mem_nil
    · exact pos
  · intro entry member
    exact absurd member List.not_mem_nil

/-- Calls that cache nothing are invisible to every other call. Leave out of a run, under
either policy, those that run a definition or look at the runs and those to which no reply
is merged. What remains is merged as before: each reply finds and leaves the same in the
cache, writes the same and is stale or not as it was. Only the epochs are new, and they
come in the same order. -/
theorem uncached_calls_invisible (policy : MergePolicy) (order : StepOrder)
    (events : List Event) :
    let session := ofStore (.empty policy order)
    let kept := session.remaining events
    session.landings (session.erase kept events) =
        ((session.landings events).filter fun landing => landing.1.request.caches).map
          (Prod.map (Receipt.renumber (rank kept)) id) ∧
      (session.run (session.erase kept events)).store.snapshot =
        (session.run events).store.snapshot := by
  intro session kept
  have start : InStep kept session session [] := inStep_empty policy order events
  have foresees : Foresees kept session events := fun epoch _ => mem_remaining_iff
  obtain ⟨last, seen⟩ := start.run (accounts_empty policy order) foresees
  exact ⟨seen, last.snapshot⟩

end Session

end Workflow
