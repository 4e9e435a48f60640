import Workflow.Cache.Session
import Workflow.Proofs.Cache.Watermarks
import Workflow.Proofs.Sequence

/-!
# What was merged, and when

A session forgets how its cache came about. A receipt keeps it for one reply: whose it
was, what was cached before it, and which of its writes were let through. The receipts
of a run account for it in full. The cache is what their writes make of an empty one,
the marks say what their log says, and no epoch is answered for twice.

All of this holds under either policy; what a policy lets through is a question about
one receipt and the log of those before it.
-/

namespace Workflow

/-- What became of a reply. -/
structure Receipt where
  /-- The epoch of the request that was answered. -/
  epoch : Nat
  request : Request
  reply : Reply
  /-- What was cached when the reply came. -/
  before : Snapshot
  written : List Write
  refused : List Write
  /-- Whether the reply was reported as stale. -/
  stale : Bool

namespace Receipt

/-- The writes that the reply asked for. -/
def asked (receipt : Receipt) : List Write :=
  receipt.request.writes receipt.before receipt.reply

/-- The writes that were let through, under the epoch of the request. -/
def log (receipt : Receipt) : WriteLog :=
  receipt.written.map (Prod.mk receipt.epoch)

/-- The log of several receipts. -/
def logAll (receipts : List Receipt) : WriteLog :=
  receipts.flatMap log

@[simp] theorem logAll_nil : logAll [] = [] := rfl

@[simp] theorem logAll_append (a b : List Receipt) : logAll (a ++ b) = logAll a ++ logAll b :=
  List.flatMap_append

@[simp] theorem logAll_singleton (receipt : Receipt) : logAll [receipt] = receipt.log := by
  simp [logAll]

theorem mem_logAll {receipts : List Receipt} {entry : Nat × Write} :
    entry ∈ logAll receipts ↔
      ∃ receipt ∈ receipts, receipt.epoch = entry.1 ∧ entry.2 ∈ receipt.written := by
  obtain ⟨epoch, write⟩ := entry
  simp only [logAll, log, List.mem_flatMap, List.mem_map, Prod.mk.injEq]
  constructor
  · rintro ⟨receipt, member, _, written, same, rfl⟩
    exact ⟨receipt, member, same, written⟩
  · rintro ⟨receipt, member, same, written⟩
    exact ⟨receipt, member, write, written, same, rfl⟩

/-- A receipt of a reply merged into a cache whose marks cover a log. -/
def Follows (policy : MergePolicy) (log : WriteLog) (receipt : Receipt) : Prop :=
  ∃ replica : Replica, replica.marks.Covers log ∧ replica.snapshot = receipt.before ∧
    receipt.written =
      (replica.performAll policy receipt.epoch receipt.asked).written ∧
    receipt.refused =
      (replica.performAll policy receipt.epoch receipt.asked).refused ∧
    (receipt.stale = true ↔ receipt.refused ≠ [])

end Receipt

/-! ## Steps of a session -/

/-- What a call makes of a reply has no say in whether it is stale. -/
theorem Store.stale_not_mem_finish (call : Call) (reply : Reply) :
    Report.stale ∉ (finish call reply).1 := by
  unfold finish
  split
  · split
    · exact List.not_mem_nil
    · simp
  · exact List.not_mem_nil

/-- A reply is reported as stale exactly when one of its writes is refused. -/
theorem Store.stale_mem_settle_iff (store : Store) (flight : Flight) (reply : Reply) :
    Report.stale ∈ (store.settle flight (.ok reply)).reports ↔
      (store.replica.merge store.policy flight.epoch flight.request reply).refused ≠ [] := by
  have quiet := stale_not_mem_finish flight.call reply
  simp only [settle, List.mem_append, List.mem_cons, reduceCtorEq, quiet, or_false]
  cases (store.replica.merge store.policy flight.epoch flight.request reply).refused with
  | nil => simp
  | cons write rest => simp

namespace Session

/-- The receipt of an event, if a reply is merged by it. -/
def receipt? (session : Session) : Event → Option Receipt
  | .answer epoch (.ok reply) =>
      (session.flight? epoch).map fun flight =>
        let merged := session.store.replica.merge session.store.policy flight.epoch
          flight.request reply
        { epoch := flight.epoch
          request := flight.request
          reply := reply
          before := session.store.snapshot
          written := merged.written
          refused := merged.refused
          stale := Report.stale ∈ (session.step (.answer epoch (.ok reply))).2 }
  | _ => none

/-- The receipts of a run, in the order of the replies. -/
def receipts (session : Session) : List Event → List Receipt
  | [] => []
  | event :: rest => (session.receipt? event).toList ++ (session.step event).1.receipts rest

/-- What an event does to the cache, the epochs and the flights: a call may start, a flight
may end, and the reply that ends it may be merged. -/
inductive Moves (session next : Session) : Option Receipt → Prop
  | rests : next.flights = session.flights → next.store.epoch = session.store.epoch →
      next.store.replica = session.store.replica → Moves session next none
  | starts (flight : Flight) : flight.epoch = session.store.epoch + 1 →
      next.flights = session.flights ++ [flight] → next.store.epoch = session.store.epoch + 1 →
      next.store.replica = session.store.replica → Moves session next none
  | ends (epoch : Nat) : next.flights = session.flightsWithout epoch →
      next.store.epoch = session.store.epoch →
      next.store.replica = session.store.replica → Moves session next none
  | merges (flight : Flight) (receipt : Receipt) : flight ∈ session.flights →
      next.flights = session.flightsWithout flight.epoch →
      next.store.epoch = session.store.epoch → receipt.epoch = flight.epoch →
      receipt.before = session.store.snapshot →
      next.store.replica = (session.store.replica.performAll session.store.policy
        receipt.epoch receipt.asked).replica →
      receipt.written = (session.store.replica.performAll session.store.policy
        receipt.epoch receipt.asked).written →
      receipt.refused = (session.store.replica.performAll session.store.policy
        receipt.epoch receipt.asked).refused →
      (receipt.stale = true ↔ receipt.refused ≠ []) → Moves session next (some receipt)

theorem flight?_eq_some {session : Session} {epoch : Nat} {flight : Flight}
    (h : session.flight? epoch = some flight) : flight ∈ session.flights ∧ flight.epoch = epoch :=
  ⟨List.mem_of_find?_eq_some h, of_decide_eq_true (List.find?_some h :)⟩

theorem step_moves (session : Session) (event : Event) :
    session.Moves (session.step event).1 (session.receipt? event) := by
  cases event with
  | call call =>
      show session.Moves (session.call call).1 none
      unfold Session.call Store.start
      cases session.store.requestOf call with
      | ok request => exact .starts ⟨_, call, request⟩ rfl rfl rfl rfl
      | error error => exact .rests rfl rfl rfl
  | answer epoch answer =>
      cases found : session.flight? epoch with
      | none =>
          have same : (session.step (.answer epoch answer)).1 = session := by
            simp [step, Session.answer, found]
          have unmerged : session.receipt? (.answer epoch answer) = none := by
            cases answer <;> simp [receipt?, found]
          rw [same, unmerged]
          exact .rests rfl rfl rfl
      | some flight =>
          obtain ⟨member, rfl⟩ := flight?_eq_some found
          cases answer with
          | error error =>
              refine .ends flight.epoch ?_ ?_ ?_ <;>
                simp [step, Session.answer, found, Store.settle]
          | ok reply =>
              have settled : session.step (.answer flight.epoch (.ok reply)) =
                  (⟨(session.store.settle flight (.ok reply)).store,
                    session.flightsWithout flight.epoch⟩,
                    (session.store.settle flight (.ok reply)).reports) := by
                simp [step, Session.answer, found]
              simp only [receipt?, found, Option.map_some, settled]
              refine .merges flight _ member rfl rfl rfl rfl rfl rfl rfl ?_
              rw [decide_eq_true_eq]
              exact session.store.stale_mem_settle_iff flight reply
  | drop epoch =>
      cases found : session.flight? epoch with
      | none =>
          have same : (session.step (.drop epoch)).1 = session := by
            simp [step, Session.drop, found]
          rw [same]
          exact .rests rfl rfl rfl
      | some flight =>
          refine .ends epoch ?_ ?_ ?_ <;> simp [step, Session.drop, found, Store.drop]

/-- How a session merges and in which order it compiles stays the same. -/
theorem step_settings (session : Session) (event : Event) :
    (session.step event).1.store.policy = session.store.policy ∧
      (session.step event).1.store.order = session.store.order := by
  cases event with
  | call call =>
      show (session.call call).1.store.policy = _ ∧ (session.call call).1.store.order = _
      unfold Session.call Store.start
      cases session.store.requestOf call <;> exact ⟨rfl, rfl⟩
  | answer epoch answer =>
      cases found : session.flight? epoch with
      | none => simp [step, Session.answer, found]
      | some flight => cases answer <;> simp [step, Session.answer, found, Store.settle]
  | drop epoch =>
      cases found : session.flight? epoch with
      | none => simp [step, Session.drop, found]
      | some flight => simp [step, Session.drop, found, Store.drop]

@[simp] theorem step_policy (session : Session) (event : Event) :
    (session.step event).1.store.policy = session.store.policy :=
  (session.step_settings event).1

theorem step_order (session : Session) (event : Event) :
    (session.step event).1.store.order = session.store.order :=
  (session.step_settings event).2

/-! ## Whole runs -/

/-- Receipts account for a session that began with an empty cache: every epoch is in
flight, answered for once, or gone, and the cache and its marks are due to the receipts. -/
structure Accounts (session : Session) (past : List Receipt) : Prop where
  flights_nodup : (session.flights.map Flight.epoch).Nodup
  flights_le : ∀ flight ∈ session.flights, flight.epoch ≤ session.store.epoch
  past_nodup : (past.map Receipt.epoch).Nodup
  past_le : ∀ receipt ∈ past, receipt.epoch ≤ session.store.epoch
  landed : ∀ receipt ∈ past, ∀ flight ∈ session.flights, flight.epoch ≠ receipt.epoch
  covers : session.store.replica.marks.Covers (Receipt.logAll past)
  snapshot : session.store.snapshot =
    (Receipt.logAll past).foldl (fun cached entry => cached.perform entry.2) .empty
  /-- Each reply was judged by the marks that the receipts before it had left. -/
  follows : ∀ earlier receipt later, past = earlier ++ receipt :: later →
    receipt.Follows session.store.policy (Receipt.logAll earlier)

theorem accounts_empty (policy : MergePolicy) (order : StepOrder) :
    (ofStore (.empty policy order)).Accounts [] where
  flights_nodup := List.nodup_nil
  flights_le _ member := absurd member List.not_mem_nil
  past_nodup := List.nodup_nil
  past_le _ member := absurd member List.not_mem_nil
  landed _ member := absurd member List.not_mem_nil
  covers := Watermarks.covers_zero
  snapshot := rfl
  follows earlier receipt later same := by simp at same

variable {session next : Session} {past : List Receipt}

/-- An account stays true while flights end and nothing is merged. -/
theorem Accounts.of_sublist (accounts : session.Accounts past)
    (flights : next.flights.Sublist session.flights)
    (epoch : next.store.epoch = session.store.epoch)
    (replica : next.store.replica = session.store.replica)
    (policy : next.store.policy = session.store.policy) : next.Accounts past where
  flights_nodup := accounts.flights_nodup.sublist (flights.map _)
  flights_le flight member := epoch ▸ accounts.flights_le flight (flights.mem member)
  past_nodup := accounts.past_nodup
  past_le receipt member := epoch ▸ accounts.past_le receipt member
  landed receipt member flight still := accounts.landed receipt member flight (flights.mem still)
  covers := replica ▸ accounts.covers
  snapshot := by
    rw [Store.snapshot, replica]
    exact accounts.snapshot
  follows := policy ▸ accounts.follows

/-- A flight under a new epoch cannot be taken for another one. -/
theorem Accounts.start (accounts : session.Accounts past) {flight : Flight}
    (new : flight.epoch = session.store.epoch + 1)
    (flights : next.flights = session.flights ++ [flight])
    (epoch : next.store.epoch = session.store.epoch + 1)
    (replica : next.store.replica = session.store.replica)
    (policy : next.store.policy = session.store.policy) : next.Accounts past where
  flights_nodup := by
    have fresh : flight.epoch ∉ session.flights.map Flight.epoch := by
      intro taken
      obtain ⟨other, member, same⟩ := List.mem_map.mp taken
      have := accounts.flights_le other member
      omega
    rw [flights, List.map_append]
    exact List.nodup_append.mpr ⟨accounts.flights_nodup, List.nodup_singleton _, by
      intro a old b last same
      exact fresh (List.mem_singleton.mp last ▸ same ▸ old)⟩
  flights_le other member := by
    rw [flights, List.mem_append, List.mem_singleton] at member
    rcases member with old | rfl
    · have := accounts.flights_le other old
      omega
    · omega
  past_nodup := accounts.past_nodup
  past_le receipt member := by
    have := accounts.past_le receipt member
    omega
  landed receipt member other still := by
    rw [flights, List.mem_append, List.mem_singleton] at still
    rcases still with old | rfl
    · exact accounts.landed receipt member other old
    · have := accounts.past_le receipt member
      omega
  covers := replica ▸ accounts.covers
  snapshot := by
    rw [Store.snapshot, replica]
    exact accounts.snapshot
  follows := policy ▸ accounts.follows

/-- A merged reply is accounted for by its receipt. -/
theorem Accounts.merge (accounts : session.Accounts past) {flight : Flight} {receipt : Receipt}
    (member : flight ∈ session.flights)
    (flights : next.flights = session.flightsWithout flight.epoch)
    (epoch : next.store.epoch = session.store.epoch) (answered : receipt.epoch = flight.epoch)
    (before : receipt.before = session.store.snapshot)
    (replica : next.store.replica = (session.store.replica.performAll session.store.policy
      receipt.epoch receipt.asked).replica)
    (written : receipt.written = (session.store.replica.performAll session.store.policy
      receipt.epoch receipt.asked).written)
    (refused : receipt.refused = (session.store.replica.performAll session.store.policy
      receipt.epoch receipt.asked).refused)
    (stale : receipt.stale = true ↔ receipt.refused ≠ [])
    (policy : next.store.policy = session.store.policy) :
    next.Accounts (past ++ [receipt]) where
  flights_nodup := by
    rw [flights]
    exact accounts.flights_nodup.sublist (List.filter_sublist.map _)
  flights_le other still := by
    rw [flights] at still
    exact epoch ▸ accounts.flights_le other (List.mem_filter.mp still).1
  past_nodup := by
    have fresh : receipt.epoch ∉ past.map Receipt.epoch := by
      intro taken
      obtain ⟨other, old, same⟩ := List.mem_map.mp taken
      exact accounts.landed other old flight member (answered.symm.trans same.symm)
    rw [List.map_append]
    exact List.nodup_append.mpr ⟨accounts.past_nodup, List.nodup_singleton _, by
      intro a old b last same
      exact fresh (List.mem_singleton.mp last ▸ same ▸ old)⟩
  past_le other old := by
    rw [epoch]
    rcases List.mem_append.mp old with old | last
    · exact accounts.past_le other old
    · rw [List.mem_singleton.mp last, answered]
      exact accounts.flights_le flight member
  landed other old flight' still := by
    rw [flights] at still
    obtain ⟨flying, different⟩ := List.mem_filter.mp still
    rcases List.mem_append.mp old with old | last
    · exact accounts.landed other old flight' flying
    · rw [List.mem_singleton.mp last, answered]
      simpa using different
  covers := by
    rw [replica, Receipt.logAll_append, Receipt.logAll_singleton, Receipt.log, written]
    exact Replica.performAll_covers accounts.covers receipt.asked
  snapshot := by
    rw [Store.snapshot, replica, Replica.performAll_snapshot, Receipt.logAll_append,
      Receipt.logAll_singleton, List.foldl_append, ← accounts.snapshot, Receipt.log, ← written,
      List.foldl_map]
    rfl
  follows := by
    rw [policy]
    exact forall_split_append_singleton.mpr ⟨accounts.follows, session.store.replica,
      accounts.covers, before.symm, written, refused, stale⟩

theorem Accounts.step (accounts : session.Accounts past) (event : Event) :
    (session.step event).1.Accounts (past ++ (session.receipt? event).toList) := by
  have policy := session.step_policy event
  have moves := session.step_moves event
  generalize (session.step event).1 = next at policy moves
  generalize session.receipt? event = receipt? at moves
  cases moves with
  | rests flights epoch replica =>
      rw [Option.toList_none, List.append_nil]
      exact accounts.of_sublist (flights ▸ List.Sublist.refl _) epoch replica policy
  | starts flight new flights epoch replica =>
      rw [Option.toList_none, List.append_nil]
      exact accounts.start new flights epoch replica policy
  | ends ended flights epoch replica =>
      rw [Option.toList_none, List.append_nil]
      exact accounts.of_sublist (flights ▸ List.filter_sublist) epoch replica policy
  | merges flight receipt member flights epoch answered before replica written refused stale =>
      exact accounts.merge member flights epoch answered before replica written refused stale
        policy

/-- Whatever happens, the receipts of a run account for the session it leads to. -/
theorem Accounts.run (accounts : session.Accounts past) (events : List Event) :
    (session.run events).Accounts (past ++ session.receipts events) := by
  induction events generalizing session past with
  | nil =>
      rw [receipts, List.append_nil]
      exact accounts
  | cons event rest ih =>
      have after := ih (accounts.step event)
      rw [List.append_assoc] at after
      exact after

theorem run_policy (events : List Event) :
    (session.run events).store.policy = session.store.policy := by
  induction events generalizing session with
  | nil => rfl
  | cons event rest ih => exact ih.trans (session.step_policy event)

theorem run_order (events : List Event) :
    (session.run events).store.order = session.store.order := by
  induction events generalizing session with
  | nil => rfl
  | cons event rest ih => exact ih.trans (session.step_order event)

/-- The receipts of a run from an empty store account for it. -/
theorem run_accounts (policy : MergePolicy) (order : StepOrder) (events : List Event) :
    ((ofStore (.empty policy order)).run events).Accounts
      ((ofStore (.empty policy order)).receipts events) :=
  (accounts_empty policy order).run events

end Session

end Workflow
