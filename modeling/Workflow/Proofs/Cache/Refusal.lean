import Workflow.Proofs.Cache.LatestRequest

/-!
# What a refusal is due to

A write is refused for a newer one that was let through. Most writes that are let
through leave something in the cache. The exception is a changed record that is not
cached: it replaces nothing, but its mark stands, and what is refused for that mark alone
is refused without cause.
-/

namespace Workflow

/-- A write leaves something in a cache. -/
def Write.lands (cached : Snapshot) : Write → Bool
  | .replace record => cached.definitions.any (·.id = record.id)
  | .list _ | .put _ | .current _ => true

/-- A write that leaves nothing changes nothing. -/
theorem Snapshot.perform_of_not_lands {cached : Snapshot} {write : Write}
    (idle : write.lands cached = false) : cached.perform write = cached := by
  cases write with
  | replace record =>
      have absent : ∀ entry ∈ cached.definitions, entry.id ≠ record.id := by
        simpa [Write.lands] using idle
      have same : replaceRecord record cached.definitions = cached.definitions := by
        refine (List.map_congr_left fun entry member => ?_).trans (List.map_id _)
        exact if_neg (absent entry member)
      rw [perform, same]
  | list records => cases idle
  | put record => cases idle
  | current record => cases idle

namespace Receipt

/-- A reply has written a part: the list if it replaced it or put in an entry, an entry if
it put it in or replaced it or the list, and the open definition if it set it. -/
def Wrote (receipt : Receipt) (part : Part) : Prop :=
  ∃ write ∈ receipt.written, write.part.Overlaps part ∧ write.lands receipt.before = true

/-- A reply has left a mark on a part for a changed record that is not cached. -/
def MarkedIdly (receipt : Receipt) (part : Part) : Prop :=
  ∃ record, .replace record ∈ receipt.written ∧ (Part.entry record.id).Overlaps part ∧
    ∀ entry ∈ receipt.before.definitions, entry.id ≠ record.id

theorem exists_written_iff {receipt : Receipt} {part : Part} :
    (∃ write ∈ receipt.written, write.part.Overlaps part) ↔
      receipt.Wrote part ∨ receipt.MarkedIdly part := by
  constructor
  · rintro ⟨write, written, overlap⟩
    by_cases landed : write.lands receipt.before = true
    · exact .inl ⟨write, written, overlap, landed⟩
    · cases write with
      | replace record =>
          exact .inr ⟨record, written, overlap, by simpa [Write.lands] using landed⟩
      | list records => exact absurd rfl landed
      | put record => exact absurd rfl landed
      | current record => exact absurd rfl landed
  · rintro (⟨write, written, overlap, -⟩ | ⟨record, written, overlap, -⟩)
    · exact ⟨write, written, overlap⟩
    · exact ⟨_, written, overlap⟩

/-- A write is refused exactly when a newer reply has written its part or marked it. -/
theorem Follows.refused_iff {earlier : List Receipt} {receipt : Receipt} {write : Write}
    (follows : receipt.Follows .latestRequestWins (logAll earlier))
    (asked : write ∈ receipt.asked) : write ∈ receipt.refused ↔
      ∃ newer ∈ earlier, receipt.epoch < newer.epoch ∧
        (newer.Wrote write.part ∨ newer.MarkedIdly write.part) := by
  rw [follows.mem_refused_iff, and_iff_right asked, WriteLog.not_upTo_iff]
  constructor
  · rintro ⟨entry, logged, overlap, later⟩
    obtain ⟨newer, member, same, written⟩ := mem_logAll.mp logged
    exact ⟨newer, member, same ▸ later, exists_written_iff.mp ⟨entry.2, written, overlap⟩⟩
  · rintro ⟨newer, member, later, marked⟩
    obtain ⟨other, written, overlap⟩ := exists_written_iff.mpr marked
    exact ⟨(newer.epoch, other), mem_logAll.mpr ⟨newer, member, rfl, written⟩, overlap, later⟩

end Receipt

namespace Session

/-- When the latest request wins, a write is refused exactly if a reply to a later request
was merged before that has written the part in question, or that has marked it for a
record that is not cached. In the second case alone nothing newer is there to keep. -/
theorem refused_iff_written_or_marked (order : StepOrder) (events : List Event)
    {earlier later : List Receipt} {receipt : Receipt}
    (run : (ofStore (.empty .latestRequestWins order)).receipts events =
      earlier ++ receipt :: later) {write : Write} (asked : write ∈ receipt.asked) :
    write ∈ receipt.refused ↔ ∃ newer ∈ earlier, receipt.epoch < newer.epoch ∧
      (newer.Wrote write.part ∨ newer.MarkedIdly write.part) :=
  (receipts_chronicle order events earlier receipt later run).refused_iff asked

/-- A list is asked for, then the status of a record changes that is not cached; the answers
come the other way round. -/
def overtakenList (listed changed : Record) : List Event :=
  [.call (.request .list), .call (.request (.setStatus changed.id changed.status)),
    .answer 2 (.ok (.definition changed)), .answer 1 (.ok (.definitions [listed]))]

/-- What becomes of the changed record: it is let through and leaves nothing. -/
def idleChange (changed : Record) : Receipt :=
  ⟨2, .setStatus changed.id changed.status, .definition changed, .empty, [.replace changed], [],
    false⟩

/-- What becomes of the list: it is refused. -/
def refusedList (listed : Record) : Receipt :=
  ⟨1, .list, .definitions [listed], .empty, [], [.list [listed]], true⟩

theorem receipts_overtakenList (listed changed : Record) :
    (ofStore (.empty .latestRequestWins .insertion)).receipts (overtakenList listed changed) =
      [idleChange changed] ++ refusedList listed :: [] := by
  rfl

theorem refused_iff_written_or_marked_overtakenList :
    .list [default] ∈ (refusedList default).refused ↔
      ∃ newer ∈ [idleChange default], (refusedList default).epoch < newer.epoch ∧
        (newer.Wrote .list ∨ newer.MarkedIdly .list) := by
  have asked : Write.list [default] ∈ (refusedList default).asked := List.mem_cons_self
  exact refused_iff_written_or_marked .insertion (overtakenList default default)
    (receipts_overtakenList default default) asked

/-- What is refused need not have given way to anything that was written. -/
theorem not_refused_only_if_written : ¬ ∀ (order : StepOrder) (events : List Event)
    (earlier later : List Receipt) (receipt : Receipt),
    (ofStore (.empty .latestRequestWins order)).receipts events = earlier ++ receipt :: later →
      ∀ write ∈ receipt.refused, ∃ newer ∈ earlier, receipt.epoch < newer.epoch ∧
        newer.Wrote write.part := by
  intro claim
  have run := receipts_overtakenList default default
  obtain ⟨newer, member, -, write, written, -, landed⟩ := claim .insertion
    (overtakenList default default) _ _ _ run (.list [default]) List.mem_cons_self
  rw [List.mem_singleton] at member
  subst member
  have only : write = .replace default := List.mem_singleton.mp written
  subst only
  cases landed

end Session

end Workflow
