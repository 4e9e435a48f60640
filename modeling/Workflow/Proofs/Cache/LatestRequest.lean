import Workflow.Proofs.Cache.History

/-!
# When the latest request wins

Of two writes that overlap, the one that is merged later is due to the later request: no
older reply takes the place of a newer one. The converse would be that a write is refused
only for a newer one. It holds of the marks, which count every write that was let
through. But a changed record that is not cached leaves a mark without leaving anything
in the cache, and what is refused for that mark is refused for nothing.
-/

namespace Workflow

/-- The parts that a reply asks to write have nothing in common. -/
theorem Request.writes_disjoint (snapshot : Snapshot) (request : Request) (reply : Reply) :
    (request.writes snapshot reply).Pairwise fun a b => ¬ a.part.Overlaps b.part := by
  unfold writes
  split
  · exact List.pairwise_singleton _ _
  · exact List.pairwise_singleton _ _
  · simp [Write.part]
  · simp [Write.part]
  · split <;> simp [Write.part]
  · exact .nil

namespace Receipt

variable {log : WriteLog} {receipt : Receipt} {write : Write}

/-! ## One receipt -/

/-- A write is let through unless a newer one that overlaps it was. -/
theorem Follows.mem_written_iff (follows : receipt.Follows .latestRequestWins log) :
    write ∈ receipt.written ↔ write ∈ receipt.asked ∧ log.UpTo write.part receipt.epoch := by
  obtain ⟨replica, covers, -, written, -, -⟩ := follows
  rw [written, (Replica.performAll_latest covers.distinct receipt.asked).1, List.mem_filter,
    decide_eq_true_eq, covers.mark_le_iff]

theorem Follows.mem_refused_iff (follows : receipt.Follows .latestRequestWins log) :
    write ∈ receipt.refused ↔ write ∈ receipt.asked ∧ ¬ log.UpTo write.part receipt.epoch := by
  obtain ⟨replica, covers, -, -, refused, -⟩ := follows
  rw [refused, (Replica.performAll_latest covers.distinct receipt.asked).2, List.mem_filter,
    decide_eq_true_eq, covers.mark_le_iff]

/-- What is let through is asked for, in the order in which it is. -/
theorem Follows.written_sublist (follows : receipt.Follows .latestRequestWins log) :
    receipt.written.Sublist receipt.asked := by
  obtain ⟨replica, covers, -, written, -, -⟩ := follows
  rw [written, (Replica.performAll_latest covers.distinct receipt.asked).1]
  exact List.filter_sublist

theorem Follows.written_eq_asked (follows : receipt.Follows .latestRequestWins log)
    (fresh : ∀ write ∈ receipt.asked, log.UpTo write.part receipt.epoch) :
    receipt.written = receipt.asked := by
  obtain ⟨replica, covers, -, written, -, -⟩ := follows
  rw [written, (Replica.performAll_latest covers.distinct receipt.asked).1]
  refine List.filter_eq_self.mpr fun write member => ?_
  exact decide_eq_true ((covers.mark_le_iff _ _).mpr (fresh write member))

/-- A reply is reported as stale exactly when part of what it asks for is not written. -/
theorem Follows.stale_iff (follows : receipt.Follows .latestRequestWins log) :
    receipt.stale = true ↔ ∃ write ∈ receipt.asked, write ∉ receipt.written := by
  obtain ⟨-, -, -, -, -, stale⟩ := id follows
  rw [stale]
  constructor
  · intro some_refused
    obtain ⟨write, refused⟩ := List.exists_mem_of_ne_nil _ some_refused
    obtain ⟨asked, old⟩ := follows.mem_refused_iff.mp refused
    exact ⟨write, asked, fun written => old (follows.mem_written_iff.mp written).2⟩
  · rintro ⟨write, asked, unwritten⟩ none_refused
    have old : ¬ log.UpTo write.part receipt.epoch := fun fresh =>
      unwritten (follows.mem_written_iff.mpr ⟨asked, fresh⟩)
    have refused := follows.mem_refused_iff.mpr ⟨asked, old⟩
    rw [none_refused] at refused
    exact List.not_mem_nil refused

/-! ## Receipts of a run -/

/-- Every reply of a run was merged when those before it had been. -/
def Chronicle (receipts : List Receipt) : Prop :=
  ∀ earlier receipt later, receipts = earlier ++ receipt :: later →
    receipt.Follows .latestRequestWins (logAll earlier)

variable {receipts : List Receipt}

theorem Chronicle.front {front back : List Receipt} (chronicle : Chronicle (front ++ back)) :
    Chronicle front := by
  intro earlier receipt later same
  exact chronicle earlier receipt (later ++ back) (by simp [same])

/-- Of two merged writes that overlap, the later one is due to the later request. -/
theorem Chronicle.log_pairwise (chronicle : Chronicle receipts)
    (distinct : (receipts.map Receipt.epoch).Nodup) :
    (logAll receipts).Pairwise fun earlier later =>
      later.2.part.Overlaps earlier.2.part → earlier.1 < later.1 := by
  refine List.pairwise_flatMap.mpr ⟨?_, pairwise_of_forall_split ?_⟩
  · intro receipt member
    obtain ⟨earlier, later, split⟩ := List.append_of_mem member
    have disjoint := (receipt.request.writes_disjoint receipt.before receipt.reply).sublist
      (chronicle earlier receipt later split).written_sublist
    refine List.pairwise_map.mpr (disjoint.imp ?_)
    intro a b apart overlap
    exact absurd overlap.symm apart
  · intro earlier receipt later split other member old written new merged overlap
    obtain ⟨write, logged, rfl⟩ := List.mem_map.mp written
    obtain ⟨newWrite, newLogged, rfl⟩ := List.mem_map.mp merged
    have fresh := ((chronicle earlier receipt later split).mem_written_iff.mp newLogged).2
    have newest := fresh (other.epoch, write) (mem_logAll.mpr ⟨other, member, rfl, logged⟩)
      overlap.symm
    have different : other.epoch ≠ receipt.epoch := by
      rw [split, List.map_append, List.map_cons] at distinct
      exact (List.nodup_append.mp distinct).2.2 _ (List.mem_map_of_mem member) _
        List.mem_cons_self
    exact Nat.lt_of_le_of_ne newest different

/-- No write is newer than all replies that were merged in full: one that was refused in
part gave way to a newer write. -/
theorem Chronicle.exists_full (chronicle : Chronicle receipts) :
    ∀ entry ∈ logAll receipts, ∃ full ∈ receipts, full.refused = [] ∧ entry.1 ≤ full.epoch := by
  induction receipts using List.reverseRecOn with
  | nil =>
      intro entry member
      exact absurd member List.not_mem_nil
  | append_singleton front last ih =>
      obtain ⟨every, follows⟩ := forall_split_append_singleton.mp chronicle
      have in_front : ∀ entry ∈ logAll front,
          ∃ full ∈ front ++ [last], full.refused = [] ∧ entry.1 ≤ full.epoch := by
        intro entry member
        obtain ⟨full, old, whole, newer⟩ := ih every entry member
        exact ⟨full, List.mem_append_left _ old, whole, newer⟩
      intro entry member
      rw [logAll_append, logAll_singleton] at member
      rcases List.mem_append.mp member with old | new
      · exact in_front entry old
      · obtain ⟨write, -, rfl⟩ := List.mem_map.mp new
        by_cases whole : last.refused = []
        · exact ⟨last, by simp, whole, Nat.le_refl _⟩
        · obtain ⟨refused, member⟩ := List.exists_mem_of_ne_nil _ whole
          obtain ⟨-, old⟩ := follows.mem_refused_iff.mp member
          obtain ⟨newer, logged, -, later⟩ := WriteLog.not_upTo_iff.mp old
          obtain ⟨full, old, whole, newest⟩ := in_front newer logged
          exact ⟨full, old, whole, Nat.le_trans (Nat.le_of_lt later) newest⟩

end Receipt

/-- Where overlapping writes are in order, the epochs of those to parts that all overlap
increase. -/
theorem WriteLog.epochs_pairwise (reached : Part → Bool) {log : WriteLog}
    (ordered : log.Pairwise fun earlier later =>
      later.2.part.Overlaps earlier.2.part → earlier.1 < later.1)
    (meet : ∀ a b, reached a = true → reached b = true → b.Overlaps a) :
    ((log.filter fun entry => reached entry.2.part).map Prod.fst).Pairwise (· < ·) := by
  refine List.pairwise_map.mpr ((ordered.filter _).imp_of_mem ?_)
  intro earlier later first second increases
  exact increases (meet _ _ (List.mem_filter.mp first).2 (List.mem_filter.mp second).2)

namespace Session

/-- The receipts of a run from an empty store under which the latest request wins. -/
theorem receipts_chronicle (order : StepOrder) (events : List Event) :
    Receipt.Chronicle ((ofStore (.empty .latestRequestWins order)).receipts events) := by
  have accounts := run_accounts .latestRequestWins order events
  have policy : ((ofStore (.empty .latestRequestWins order)).run events).store.policy =
      .latestRequestWins := run_policy events
  have follows := accounts.follows
  rw [policy] at follows
  exact follows

/-- The latest request wins, in whatever order replies come. The writes of all replies, in
the order in which they were merged, make up the cache; their epochs increase among those
to the open definition, among those that reach the entries with some number, and up to
each list from all that it replaces. A reply newer than all that were merged in full is
merged in full, and a reply is reported as stale if and only if it is not. -/
theorem latest_request_wins (order : StepOrder) (events : List Event) :
    let session := ofStore (.empty .latestRequestWins order)
    let receipts := session.receipts events
    let log := Receipt.logAll receipts
    (session.run events).store.snapshot =
        log.foldl (fun cached entry => cached.perform entry.2) .empty ∧
      ((log.filter fun entry => entry.2.part = .current).map Prod.fst).Pairwise (· < ·) ∧
      (∀ id, ((log.filter fun entry => entry.2.part = .list ∨ entry.2.part = .entry id).map
        Prod.fst).Pairwise (· < ·)) ∧
      (∀ earlier epoch records later, log = earlier ++ (epoch, .list records) :: later →
        ∀ entry ∈ earlier, entry.2.part ≠ .current → entry.1 < epoch) ∧
      (∀ earlier receipt later, receipts = earlier ++ receipt :: later →
        (∀ other ∈ earlier, other.refused = [] → other.epoch < receipt.epoch) →
          receipt.written = receipt.asked) ∧
      ∀ receipt ∈ receipts,
        receipt.stale = true ↔ ∃ write ∈ receipt.asked, write ∉ receipt.written := by
  intro session receipts log
  have accounts := run_accounts .latestRequestWins order events
  have chronicle : Receipt.Chronicle receipts := receipts_chronicle order events
  have ordered : log.Pairwise fun earlier later =>
      later.2.part.Overlaps earlier.2.part → earlier.1 < later.1 :=
    chronicle.log_pairwise accounts.past_nodup
  refine ⟨accounts.snapshot, ?_, ?_, ?_, ?_, ?_⟩
  · apply WriteLog.epochs_pairwise (fun part => part = .current) ordered
    intro a b first second
    rw [of_decide_eq_true first, of_decide_eq_true second]
    rfl
  · intro id
    apply WriteLog.epochs_pairwise (fun part => part = .list ∨ part = .entry id) ordered
    intro a b first second
    rcases of_decide_eq_true first with rfl | rfl <;>
      rcases of_decide_eq_true second with rfl | rfl <;> simp
  · intro earlier epoch records later split entry member elsewhere
    rw [split] at ordered
    have increases := (List.pairwise_append.mp ordered).2.2 entry member _ List.mem_cons_self
    apply increases
    cases part : entry.2.part with
    | list => simp [Write.part]
    | entry id => simp [Write.part]
    | current => exact absurd part elsewhere
  · intro earlier receipt later split newest
    refine (chronicle earlier receipt later split).written_eq_asked ?_
    have before : Receipt.Chronicle earlier := by
      rw [split] at chronicle
      exact chronicle.front
    intro write _ entry member _
    obtain ⟨full, old, whole, newer⟩ := before.exists_full entry member
    exact Nat.le_trans newer (Nat.le_of_lt (newest full old whole))
  · intro receipt member
    obtain ⟨earlier, later, split⟩ := List.append_of_mem member
    exact (chronicle earlier receipt later split).stale_iff

end Session

end Workflow
