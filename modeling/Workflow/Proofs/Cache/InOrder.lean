import Workflow.Proofs.Cache.Landings

/-!
# Replies in the order of their requests

When the last write wins, a run leaves in the cache what it would have left had its calls
been made one at a time, in the order in which their replies came. The calls of such a
run are answered in the order in which they are issued, and then the policies agree: a
reply that is newer than all before it is merged in full under either.

Two sessions that differ in nothing but their policies therefore stay alike for as long
as replies keep to that order, whatever else happens in between.
-/

namespace Workflow

/-- What was asked and what was answered. -/
def Receipt.exchange (receipt : Receipt) : Request × Reply :=
  (receipt.request, receipt.reply)

/-- What is cached once replies have been merged in full, one after another. -/
def Snapshot.absorbAll (snapshot : Snapshot) (exchanges : List (Request × Reply)) : Snapshot :=
  exchanges.foldl (fun cached exchange => cached.absorb exchange.1 exchange.2) snapshot

namespace Session

variable {session first second : Session} {past : List Receipt} {event : Event}
  {epoch : Nat} {flight : Flight}

/-- Calls made one after another, the first of them under a given number, each of which is
answered before the next is made. -/
def oneByOne : Nat → List (Request × Reply) → List Event
  | _, [] => []
  | number, (request, reply) :: rest =>
    .call (.request request) :: .answer number (.ok reply) :: oneByOne (number + 1) rest

/-! ## Replies merged in full -/

/-- A run that refuses nothing leaves what its replies make of the cache. -/
theorem run_snapshot_of_full {events : List Event}
    (full : ∀ receipt ∈ session.receipts events, receipt.refused = []) :
    (session.run events).store.snapshot =
      session.store.snapshot.absorbAll ((session.receipts events).map Receipt.exchange) := by
  induction events generalizing session with
  | nil => rfl
  | cons event rest ih =>
      have moves := session.step_moves event
      rw [receipts_cons] at full ⊢
      have later := ih fun receipt merged => full receipt (List.mem_append_right _ merged)
      rw [run_cons, later]
      generalize (session.step event).1 = next at moves
      generalize session.receipt? event = receipt? at moves full
      cases moves with
      | rests flights epoch replica => rw [Store.snapshot, replica]; rfl
      | starts flight new flights epoch replica => rw [Store.snapshot, replica]; rfl
      | ends ended flights epoch replica => rw [Store.snapshot, replica]; rfl
      | merges flight receipt member flights epoch answered before replica written refused
          stale =>
          have none_refused : receipt.refused = [] := full receipt List.mem_cons_self
          have all_written := Replica.performAll_written_of_refused_nil (refused ▸ none_refused)
          have absorbed : next.store.snapshot =
              session.store.snapshot.absorb receipt.request receipt.reply := by
            rw [Store.snapshot, replica, Replica.performAll_snapshot, all_written,
              Receipt.asked, before]
            rfl
          rw [absorbed]
          rfl

/-- A reply no older than what was written before is merged in full. -/
theorem receipt?_of_upTo (found : session.flight? epoch = some flight)
    (upTo : session.store.replica.marks.UpTo flight.epoch) (reply : Reply) :
    session.receipt? (.answer epoch (.ok reply)) =
        some ⟨flight.epoch, flight.request, reply, session.store.snapshot,
          flight.request.writes session.store.snapshot reply, [], false⟩ ∧
      (session.step (.answer epoch (.ok reply))).1.store.snapshot =
        session.store.snapshot.absorb flight.request reply ∧
      (session.step (.answer epoch (.ok reply))).1.store.replica.marks.UpTo flight.epoch := by
  obtain ⟨written, refused, after⟩ := Replica.performAll_of_upTo upTo session.store.policy
    (flight.request.writes session.store.replica.snapshot reply)
  obtain ⟨stale, merged, stale_iff⟩ := receipt?_of_some found reply
  have step := step_answer_ok found reply
  refine ⟨?_, ?_, ?_⟩
  · have fresh : stale = false := by
      apply Bool.eq_false_iff.mpr
      intro isStale
      exact stale_iff.mp isStale refused
    rw [merged, fresh, Replica.merge, written, refused]
    rfl
  · rw [step]
    exact Replica.merge_snapshot_of_full written
  · rw [step]
    exact after

/-- Calls made one at a time leave what their replies make of the cache. -/
theorem run_oneByOne (idle : session.flights = [])
    (upTo : session.store.replica.marks.UpTo session.store.epoch)
    (exchanges : List (Request × Reply)) :
    (session.run (oneByOne (session.store.epoch + 1) exchanges)).store.snapshot =
      session.store.snapshot.absorbAll exchanges := by
  induction exchanges generalizing session with
  | nil => rfl
  | cons exchange rest ih =>
      obtain ⟨request, reply⟩ := exchange
      have sent : session.store.requestOf (.request request) = .ok request := rfl
      have called := step_call_of_ok sent
      rw [idle, List.nil_append] at called
      rw [oneByOne, run_cons, run_cons]
      generalize (session.step (.call (.request request))).1 = waiting at called
      have number : waiting.store.epoch = session.store.epoch + 1 := by rw [called]
      have found : waiting.flight? (session.store.epoch + 1) =
          some ⟨session.store.epoch + 1, .request request, request⟩ := by
        simp [called, flight?]
      have still : waiting.store.replica = session.store.replica := by rw [called]
      have fresh : waiting.store.replica.marks.UpTo (session.store.epoch + 1) := by
        rw [still]
        exact upTo.mono (Nat.le_succ _)
      obtain ⟨-, absorbed, after⟩ := receipt?_of_upTo found fresh reply
      have answered := step_answer_ok found reply
      have empty : waiting.flightsWithout (session.store.epoch + 1) = [] := by
        simp [called, flightsWithout]
      generalize (waiting.step (.answer (session.store.epoch + 1) (.ok reply))).1 = next
        at absorbed after answered
      have same : next.store.epoch = session.store.epoch + 1 := by rw [answered, number]
      have none_left : next.flights = [] := by rw [answered, empty]
      have later := ih none_left (same.symm ▸ after)
      have cached : waiting.store.snapshot = session.store.snapshot :=
        congrArg Replica.snapshot still
      rw [same, absorbed, cached] at later
      exact later

/-! ## Two sessions alike -/

/-- Two sessions have the same calls in flight and the same in their caches. -/
structure Alike (first second : Session) : Prop where
  order : second.store.order = first.store.order
  epoch : second.store.epoch = first.store.epoch
  flights : second.flights = first.flights
  snapshot : second.store.snapshot = first.store.snapshot

theorem Alike.flight? (alike : Alike first second) (epoch : Nat) :
    second.flight? epoch = first.flight? epoch := by
  rw [Session.flight?, Session.flight?, alike.flights]

theorem Alike.flightsWithout (alike : Alike first second) (epoch : Nat) :
    second.flightsWithout epoch = first.flightsWithout epoch := by
  rw [Session.flightsWithout, Session.flightsWithout, alike.flights]

/-- Sessions stay alike when a call ends in both and leaves the same in their caches. -/
theorem Alike.ended (alike : Alike first second) (epoch : Nat) {replica other : Replica}
    (same : other.snapshot = replica.snapshot) :
    Alike ⟨{ first.store with replica := replica, loading := false }, first.flightsWithout epoch⟩
      ⟨{ second.store with replica := other, loading := false }, second.flightsWithout epoch⟩ :=
  ⟨alike.order, alike.epoch, alike.flightsWithout epoch, same⟩

/-- A reply that is newer than all before it is merged in full by both sessions. -/
theorem Alike.merge (alike : Alike first second) (firstAccounts : first.Accounts past)
    (secondAccounts : second.Accounts past) (found : first.flight? epoch = some flight)
    (reply : Reply) (newest : ∀ old ∈ past, old.epoch < flight.epoch) :
    Alike (first.step (.answer epoch (.ok reply))).1 (second.step (.answer epoch (.ok reply))).1 ∧
      second.receipt? (.answer epoch (.ok reply)) = first.receipt? (.answer epoch (.ok reply)) ∧
      ∀ receipt ∈ first.receipt? (.answer epoch (.ok reply)), receipt.refused = [] := by
  have otherFound : second.flight? epoch = some flight := (alike.flight? epoch).trans found
  have upTo : ∀ entry ∈ Receipt.logAll past, entry.1 ≤ flight.epoch := by
    intro entry member
    obtain ⟨old, answered, equal, -⟩ := Receipt.mem_logAll.mp member
    exact equal ▸ Nat.le_of_lt (newest old answered)
  obtain ⟨merged, absorbed, -⟩ := receipt?_of_upTo found (firstAccounts.covers.upTo upTo) reply
  obtain ⟨otherMerged, otherAbsorbed, -⟩ :=
    receipt?_of_upTo otherFound (secondAccounts.covers.upTo upTo) reply
  refine ⟨?_, ?_, ?_⟩
  · have same : (second.step (.answer epoch (.ok reply))).1.store.snapshot =
        (first.step (.answer epoch (.ok reply))).1.store.snapshot := by
      rw [absorbed, otherAbsorbed, alike.snapshot]
    rw [step_answer_ok found, step_answer_ok otherFound] at same ⊢
    exact alike.ended epoch same
  · rw [merged, otherMerged, alike.snapshot]
  · intro receipt now
    rw [merged] at now
    cases now
    rfl

/-- Sessions stay alike when a reply comes that is newer than all before it. -/
theorem Alike.step (alike : Alike first second) (firstAccounts : first.Accounts past)
    (secondAccounts : second.Accounts past)
    (newest : ∀ receipt ∈ first.receipt? event, ∀ old ∈ past, old.epoch < receipt.epoch) :
    Alike (first.step event).1 (second.step event).1 ∧
      second.receipt? event = first.receipt? event ∧
      ∀ receipt ∈ first.receipt? event, receipt.refused = [] := by
  cases event with
  | call call =>
      refine ⟨?_, rfl, by simp [receipt?]⟩
      have same := Store.requestOf_congr alike.order alike.snapshot call
      cases sent : first.store.requestOf call with
      | error error =>
          rw [step_call_of_error sent, step_call_of_error (same.trans sent)]
          exact alike
      | ok request =>
          rw [step_call_of_ok sent, step_call_of_ok (same.trans sent)]
          exact ⟨alike.order, congrArg (· + 1) alike.epoch, by rw [alike.flights, alike.epoch],
            alike.snapshot⟩
  | answer epoch outcome =>
      have same := alike.flight? epoch
      cases found : first.flight? epoch with
      | none =>
          rw [found] at same
          rw [step_answer_of_none found, step_answer_of_none same, receipt?_of_none found,
            receipt?_of_none same]
          exact ⟨alike, rfl, by simp⟩
      | some flight =>
          rw [found] at same
          cases outcome with
          | error error =>
              rw [step_answer_error found, step_answer_error same]
              exact ⟨alike.ended epoch alike.snapshot, rfl, by simp [receipt?]⟩
          | ok reply =>
              obtain ⟨stale, merged, -⟩ := receipt?_of_some found reply
              exact alike.merge firstAccounts secondAccounts found reply (newest _ merged)
  | drop epoch =>
      have same := alike.flight? epoch
      refine ⟨?_, rfl, by simp [receipt?]⟩
      cases found : first.flight? epoch with
      | none =>
          rw [found] at same
          rw [step_drop_of_none found, step_drop_of_none same]
          exact alike
      | some flight =>
          rw [found] at same
          rw [step_drop found, step_drop same]
          exact alike.ended epoch alike.snapshot

/-- Sessions stay alike for as long as replies come in the order of their requests, and
neither of them refuses any. -/
theorem Alike.run (alike : Alike first second) (firstAccounts : first.Accounts past)
    (secondAccounts : second.Accounts past) {events : List Event}
    (inOrder : ((past ++ first.receipts events).map Receipt.epoch).Pairwise (· < ·)) :
    Alike (first.run events) (second.run events) ∧
      second.receipts events = first.receipts events ∧
      ∀ receipt ∈ first.receipts events, receipt.refused = [] := by
  induction events generalizing first second past with
  | nil => exact ⟨alike, rfl, by simp [receipts]⟩
  | cons event rest ih =>
      rw [receipts_cons, ← List.append_assoc] at inOrder
      have newest : ∀ receipt ∈ first.receipt? event, ∀ old ∈ past,
          old.epoch < receipt.epoch := by
        intro receipt now old before
        rw [List.append_assoc, List.map_append, List.pairwise_append] at inOrder
        apply inOrder.2.2 _ (List.mem_map_of_mem before)
        apply List.mem_map_of_mem
        exact List.mem_append_left _ (Option.mem_toList.mpr now)
      obtain ⟨after, same, full⟩ := alike.step firstAccounts secondAccounts newest
      have firstAfter := firstAccounts.step event
      have secondAfter := secondAccounts.step event
      rw [same] at secondAfter
      obtain ⟨last, later, rest_full⟩ := ih after firstAfter secondAfter inOrder
      refine ⟨last, ?_, ?_⟩
      · rw [receipts_cons, receipts_cons, same, later]
      · intro receipt merged
        rw [receipts_cons] at merged
        rcases List.mem_append.mp merged with now | further
        · exact full receipt (Option.mem_toList.mp now)
        · exact rest_full receipt further

theorem alike_empty (policy other : MergePolicy) (order : StepOrder) :
    Alike (ofStore (.empty policy order)) (ofStore (.empty other order)) :=
  ⟨rfl, rfl, rfl, rfl⟩

/-- When the last write wins nothing is refused. -/
theorem refused_nil_of_lastWriteWins {events : List Event}
    (policy : session.store.policy = .lastWriteWins) {receipt : Receipt}
    (merged : receipt ∈ session.receipts events) : receipt.refused = [] := by
  induction events generalizing session with
  | nil => exact absurd merged List.not_mem_nil
  | cons event rest ih =>
      rw [receipts_cons] at merged
      rcases List.mem_append.mp merged with now | later
      · have moves := session.step_moves event
        rw [Option.mem_toList.mp now] at moves
        cases moves with
        | merges flight receipt member flights epoch answered before replica written refused
            stale =>
            rw [refused, policy]
            exact (Replica.performAll_lastWriteWins _ _ _).2
      · exact ih ((session.step_policy event).trans policy) later

/-- When the last write wins, what a run leaves in the cache is what its calls leave when
they are made one at a time, each answered before the next is made, in the order in which
their replies came; and these leave the same under either policy. Where replies come in
the order of their requests, whatever overlaps, fails or is dropped in between, the two
policies have the same in the cache all along, and neither ever tells of a stale reply. -/
theorem last_write_wins_in_reply_order (order : StepOrder) (events : List Event) :
    let session := fun policy => ofStore (.empty policy order)
    let exchanges := ((session .lastWriteWins).receipts events).map Receipt.exchange
    (∀ policy, ((session policy).run (oneByOne 1 exchanges)).store.snapshot =
        ((session .lastWriteWins).run events).store.snapshot) ∧
      ∀ policy, (((session policy).receipts events).map Receipt.epoch).Pairwise (· < ·) →
        (∀ front, front <+: events → ((session .latestRequestWins).run front).store.snapshot =
          ((session .lastWriteWins).run front).store.snapshot) ∧
        ∀ policy, Report.stale ∉ (session policy).told events := by
  intro session exchanges
  constructor
  · intro policy
    have sequential := @run_oneByOne (session policy) rfl (Watermarks.upTo_zero 0) exchanges
    have overlapping : ((session .lastWriteWins).run events).store.snapshot =
        (session .lastWriteWins).store.snapshot.absorbAll exchanges :=
      run_snapshot_of_full fun receipt merged => refused_nil_of_lastWriteWins rfl merged
    rw [overlapping]
    exact sequential
  · intro policy inOrder
    have agree : ∀ front, front <+: events → ∀ other,
        Alike ((session policy).run front) ((session other).run front) ∧
          (session other).receipts front = (session policy).receipts front ∧
          ∀ receipt ∈ (session policy).receipts front, receipt.refused = [] := by
      rintro front ⟨back, rfl⟩ other
      apply (alike_empty policy other order).run (accounts_empty policy order)
        (accounts_empty other order)
      rw [receipts_append, List.map_append] at inOrder
      exact (List.pairwise_append.mp inOrder).1
    constructor
    · intro front before
      have latest := (agree front before .latestRequestWins).1.snapshot
      have last := (agree front before .lastWriteWins).1.snapshot
      exact latest.trans last.symm
    · intro other isStale
      obtain ⟨receipt, merged, refused⟩ := stale_mem_told_iff.mp isStale
      obtain ⟨-, same, full⟩ := agree events (List.prefix_refl _) other
      exact refused (full receipt (same ▸ merged))

/-- Four calls overlap, of which one fails and one is dropped; the replies to the others keep
to the order of their requests. -/
def overlappingCalls (record : Record) : List Event :=
  [.call (.request .list), .call (.request (.get record.id)),
    .call (.request (.setStatus record.id record.status)),
    .answer 2 (.error ⟨.getDefinition, .notFound "workflow"⟩),
    .answer 1 (.ok (.definitions [record])), .call (.request .runs), .drop 4,
    .answer 3 (.ok (.definition record))]

theorem last_write_wins_in_reply_order_overlappingCalls :
    let session := fun policy => ofStore (.empty policy .insertion)
    let events := overlappingCalls default
    (((session .latestRequestWins).receipts events).map Receipt.epoch).Pairwise (· < ·) ∧
      ((session .latestRequestWins).run events).store.snapshot =
        ((session .lastWriteWins).run events).store.snapshot ∧
      Report.stale ∉ (session .latestRequestWins).told events := by
  intro session events
  have inOrder : (((session .latestRequestWins).receipts events).map Receipt.epoch).Pairwise
      (· < ·) := by
    have epochs : ((session .latestRequestWins).receipts events).map Receipt.epoch = [1, 3] := by
      rfl
    rw [epochs]
    decide
  obtain ⟨same, quiet⟩ :=
    (last_write_wins_in_reply_order .insertion events).2 .latestRequestWins inOrder
  exact ⟨inOrder, same events (List.prefix_refl _), quiet .latestRequestWins⟩

end Session

end Workflow
