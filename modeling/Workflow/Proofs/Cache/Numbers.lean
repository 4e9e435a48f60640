import Workflow.Proofs.Cache.Confluence

/-!
# The numbers in the cached list

Records are told apart by their numbers, and the cached list has each number once: a new list
brings distinct numbers with it, a stored record is put at the end only if its number is not
there yet, and whatever else is written leaves every number in its place.

What a write does to the numbers depends on the numbers alone, not on the records, so it is
said first of lists of numbers. From it follows what a merged reply does, and from that what
any run of a session leaves.
-/

namespace Workflow

/-- The numbers of the cached records, in the order of the list. -/
def Snapshot.ids (snapshot : Snapshot) : List Int64 :=
  snapshot.definitions.map Record.id

/-! ## One write -/

/-- The numbers that a write leaves of those that there were. -/
def Write.renumber (ids : List Int64) : Write → List Int64
  | .list records => records.map Record.id
  | .put record => if record.id ∈ ids then ids else ids ++ [record.id]
  | .replace _ | .current _ => ids

namespace Snapshot

theorem map_id_putRecord (record : Record) (records : List Record) :
    (putRecord record records).map Record.id =
      if record.id ∈ records.map Record.id then records.map Record.id
      else records.map Record.id ++ [record.id] := by
  induction records with
  | nil => rfl
  | cons entry rest ih =>
      by_cases same : entry.id = record.id
      · simp [putRecord, same]
      · have further : record.id ∈ (entry :: rest).map Record.id ↔
            record.id ∈ rest.map Record.id := by
          rw [List.map_cons, List.mem_cons, or_iff_right (Ne.symm same)]
        rw [putRecord, if_neg same, List.map_cons, ih]
        simp only [further]
        split <;> rfl

theorem map_id_replaceRecord (record : Record) (records : List Record) :
    (replaceRecord record records).map Record.id = records.map Record.id := by
  rw [replaceRecord, List.map_map]
  refine List.map_congr_left fun entry _ => ?_
  rw [Function.comp_apply]
  split
  · rename_i same
    exact same.symm
  · rfl

theorem ids_perform (snapshot : Snapshot) (write : Write) :
    (snapshot.perform write).ids = write.renumber snapshot.ids := by
  cases write with
  | list records => rfl
  | put record => exact map_id_putRecord record snapshot.definitions
  | replace record => exact map_id_replaceRecord record snapshot.definitions
  | current record => rfl

end Snapshot

namespace Write

variable {write : Write} {ids : List Int64}

theorem InPlace.renumber_eq (inPlace : write.InPlace) : write.renumber ids = ids := by
  cases inPlace <;> rfl

/-- Numbers stay distinct if a new list brings distinct ones. -/
theorem nodup_renumber (distinct : ids.Nodup)
    (listed : ∀ records, write = .list records → (records.map Record.id).Nodup) :
    (write.renumber ids).Nodup := by
  cases write with
  | list records => exact listed records rfl
  | put record =>
      rw [renumber]
      split
      · exact distinct
      · rename_i new
        exact List.nodup_append.mpr ⟨distinct, List.nodup_singleton _, by
          intro old member last isLast same
          exact new (List.mem_singleton.mp isLast ▸ same ▸ member)⟩
  | replace record | current record => exact distinct

end Write

/-! ## One reply -/

namespace Replica

variable {replica : Replica} {policy : MergePolicy} {epoch : Nat}

/-- What is written in place leaves the numbers alone, whether it is let through or not. -/
theorem ids_performAll_of_inPlace {writes : List Write}
    (inPlace : ∀ write ∈ writes, write.InPlace) :
    (replica.performAll policy epoch writes).replica.snapshot.ids = replica.snapshot.ids := by
  induction writes generalizing replica with
  | nil => rfl
  | cons write rest ih =>
      obtain ⟨first, others⟩ := List.forall_mem_cons.mp inPlace
      rw [performAll]
      split
      · exact (ih others).trans ((replica.snapshot.ids_perform write).trans first.renumber_eq)
      · exact ih others

/-- The first of the writes that a reply asks for decides, if the others are in place. -/
theorem ids_performAll_cons {write : Write} {rest : List Write}
    (inPlace : ∀ other ∈ rest, other.InPlace) :
    (replica.performAll policy epoch (write :: rest)).replica.snapshot.ids =
      if replica.marks.admits policy epoch write then write.renumber replica.snapshot.ids
      else replica.snapshot.ids := by
  rw [performAll]
  split
  · exact (ids_performAll_of_inPlace inPlace).trans (replica.snapshot.ids_perform write)
  · exact ids_performAll_of_inPlace inPlace

/-- A list that is let through brings its numbers. -/
theorem ids_merge_list (records : List Record) :
    (replica.merge policy epoch .list (.definitions records)).replica.snapshot.ids =
      if replica.marks.admits policy epoch (.list records) then records.map Record.id
      else replica.snapshot.ids :=
  ids_performAll_cons fun _ absent => absurd absent List.not_mem_nil

/-- A stored record that is let through adds its number if that is not there yet. -/
theorem ids_merge_create (creation : Creation) (record : Record) :
    (replica.merge policy epoch (.create creation) (.definition record)).replica.snapshot.ids =
      if replica.marks.admits policy epoch (.put record) ∧ record.id ∉ replica.snapshot.ids
      then replica.snapshot.ids ++ [record.id] else replica.snapshot.ids := by
  have asked : Request.writes replica.snapshot (.create creation) (.definition record) =
      [.put record, .current record] := rfl
  rw [merge, asked, ids_performAll_cons (List.forall_mem_singleton.mpr (.current record)),
    Write.renumber]
  by_cases listed : record.id ∈ replica.snapshot.ids <;> simp [listed]

/-- Replies to other requests leave the numbers alone. -/
theorem ids_merge_of_keepsPlaces {request : Request}
    (keeps : request.operation.keepsPlaces = true) (reply : Reply) :
    (replica.merge policy epoch request reply).replica.snapshot.ids = replica.snapshot.ids :=
  ids_performAll_of_inPlace fun _ asked => Request.inPlace_of_mem_writes keeps asked

theorem nodup_ids_performAll {writes : List Write} (distinct : replica.snapshot.ids.Nodup)
    (listed : ∀ records, .list records ∈ writes → (records.map Record.id).Nodup) :
    (replica.performAll policy epoch writes).replica.snapshot.ids.Nodup := by
  induction writes generalizing replica with
  | nil => exact distinct
  | cons write rest ih =>
      have later : ∀ records, .list records ∈ rest → (records.map Record.id).Nodup :=
        fun records member => listed records (List.mem_cons_of_mem _ member)
      rw [performAll]
      split
      · have kept : (replica.perform epoch write).snapshot.ids.Nodup := by
          show (replica.snapshot.perform write).ids.Nodup
          rw [Snapshot.ids_perform]
          refine Write.nodup_renumber distinct fun records same => ?_
          exact listed records (same ▸ List.mem_cons_self)
        exact ih kept later
      · exact ih distinct later

end Replica

/-- Only the reply to a request for the list asks for a new one. -/
theorem Request.eq_of_list_mem_writes {snapshot : Snapshot} {request : Request} {reply : Reply}
    {records : List Record} (asked : .list records ∈ request.writes snapshot reply) :
    reply = .definitions records := by
  unfold Request.writes at asked
  split at asked
  · cases List.mem_singleton.mp asked
    rfl
  · simp at asked
  · simp at asked
  · simp at asked
  · split at asked <;> simp at asked
  · exact absurd asked List.not_mem_nil

/-! ## Sessions -/

namespace Session

/-- The numbers that a session has cached. -/
def ids (session : Session) : List Int64 :=
  session.store.snapshot.ids

variable {session : Session} {epoch : Nat} {flight : Flight}

theorem ids_step_answer (found : session.flight? epoch = some flight) (reply : Reply) :
    (session.step (.answer epoch (.ok reply))).1.ids =
      (session.store.replica.merge session.store.policy flight.epoch flight.request
        reply).replica.snapshot.ids := by
  rw [ids, step_answer_ok found]
  rfl

/-- An event that merges no reply leaves the numbers alone. -/
theorem ids_step_of_none {event : Event} (unmerged : session.receipt? event = none) :
    (session.step event).1.ids = session.ids := by
  have moves := session.step_moves event
  rw [unmerged] at moves
  cases moves with
  | rests flights epoch replica | starts flight new flights epoch replica
  | ends ended flights epoch replica =>
      rw [ids, ids, Store.snapshot, Store.snapshot, replica]

theorem nodup_ids_step {event : Event} (distinct : session.ids.Nodup)
    (listed : ∀ epoch records, event = .answer epoch (.ok (.definitions records)) →
      (records.map Record.id).Nodup) : (session.step event).1.ids.Nodup := by
  cases unmerged : session.receipt? event with
  | none =>
      rw [ids_step_of_none unmerged]
      exact distinct
  | some receipt =>
      obtain ⟨epoch, reply, rfl⟩ : ∃ epoch reply, event = .answer epoch (.ok reply) := by
        unfold receipt? at unmerged
        split at unmerged
        · exact ⟨_, _, rfl⟩
        · cases unmerged
      obtain ⟨flight, found, -⟩ := Option.map_eq_some_iff.mp unmerged
      rw [ids_step_answer found]
      refine Replica.nodup_ids_performAll distinct fun records asked => ?_
      exact listed epoch records (by rw [Request.eq_of_list_mem_writes asked])

theorem nodup_ids_run {events : List Event} (distinct : session.ids.Nodup)
    (listed : ∀ epoch records, .answer epoch (.ok (.definitions records)) ∈ events →
      (records.map Record.id).Nodup) : (session.run events).ids.Nodup := by
  induction events generalizing session with
  | nil => exact distinct
  | cons event rest ih =>
      refine ih (nodup_ids_step distinct fun epoch records same => ?_)
        fun epoch records member => ?_
      · exact listed epoch records (same ▸ List.mem_cons_self)
      · exact listed epoch records (List.mem_cons_of_mem _ member)

/-- The cached list has each number once, under either policy and however calls overlap, if the
lists that the engine answers with do. At every point of a run the reply to a stored record
leaves the numbers as they are or, if it is let through and its number is not there yet, puts
that number at their end. A list that is let through brings its own numbers. Replies to all
other requests, and whatever else happens, leave every number where it is. -/
theorem cached_ids_distinct (policy : MergePolicy) (order : StepOrder) {events : List Event}
    (listed : ∀ epoch records, .answer epoch (.ok (.definitions records)) ∈ events →
      (records.map Record.id).Nodup) :
    let session := (ofStore (.empty policy order)).run events
    let admits := session.store.replica.marks.admits policy
    session.ids.Nodup ∧
      (∀ epoch flight, session.flight? epoch = some flight → ∀ reply,
        let after := (session.step (.answer epoch (.ok reply))).1.ids
        (∀ creation record, flight.request = .create creation → reply = .definition record →
          after = if admits flight.epoch (.put record) ∧ record.id ∉ session.ids
            then session.ids ++ [record.id] else session.ids) ∧
        (∀ records, flight.request = .list → reply = .definitions records →
          after = if admits flight.epoch (.list records)
            then records.map Record.id else session.ids) ∧
        (flight.request.operation.keepsPlaces = true → after = session.ids)) ∧
      ∀ event, session.receipt? event = none → (session.step event).1.ids = session.ids := by
  intro session admits
  have samePolicy : session.store.policy = policy := run_policy events
  refine ⟨nodup_ids_run List.nodup_nil listed, ?_, fun event => ids_step_of_none⟩
  intro epoch flight found reply after
  have merged : after = (session.store.replica.merge policy flight.epoch flight.request
      reply).replica.snapshot.ids := by
    rw [← samePolicy]
    exact ids_step_answer found reply
  refine ⟨?_, ?_, ?_⟩
  · rintro creation record asked rfl
    rw [merged, asked]
    exact Replica.ids_merge_create creation record
  · rintro records asked rfl
    rw [merged, asked]
    exact Replica.ids_merge_list records
  · intro keeps
    rw [merged]
    exact Replica.ids_merge_of_keepsPlaces keeps reply

/-- A record is stored and listed, and the list comes first; another one is stored meanwhile,
and a third is changed that was never listed. -/
def storedAndListed : List Event :=
  let record (id : Int64) : Record := { (default : Record) with id }
  [.call (.request (.create default)), .call (.request .list), .call (.request (.create default)),
    .call (.request (.update 9 default)), .answer 2 (.ok (.definitions [record 4, record 1])),
    .answer 4 (.ok (.definition (record 9))), .answer 3 (.ok (.definition (record 2)))]

theorem cached_ids_distinct_storedAndListed :
    let session := (ofStore (.empty .lastWriteWins .insertion)).run storedAndListed
    (∀ epoch records, .answer epoch (.ok (.definitions records)) ∈ storedAndListed →
      (records.map Record.id).Nodup) ∧
    session.ids = [4, 1, 2] ∧ session.ids.Nodup ∧
    (session.step (.answer 1 (.ok (.definition { (default : Record) with id := 1 })))).1.ids =
      [4, 1, 2] := by
  intro session
  have listed : ∀ epoch records, .answer epoch (.ok (.definitions records)) ∈ storedAndListed →
      (records.map Record.id).Nodup := by
    intro epoch records member
    simp only [storedAndListed, List.mem_cons, reduceCtorEq, Event.answer.injEq, Except.ok.injEq,
      Reply.definitions.injEq, false_or, and_false, List.not_mem_nil, or_false] at member
    rw [member.2]
    decide
  obtain ⟨distinct, replies, -⟩ := cached_ids_distinct .lastWriteWins .insertion listed
  have cached : session.ids = [4, 1, 2] := by rfl
  have found : session.flight? 1 = some ⟨1, .request (.create default), .create default⟩ := by rfl
  have again := (replies 1 _ found (.definition { (default : Record) with id := 1 })).1 default _
    rfl rfl
  refine ⟨listed, cached, distinct, again.trans ?_⟩
  rfl

end Session

end Workflow
