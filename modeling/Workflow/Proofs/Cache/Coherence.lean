import Workflow.Cache.Client
import Workflow.Proofs.Cache.History
import Workflow.Proofs.Cache.Judgement
import Workflow.Proofs.Engine.Local

/-!
# A cache and the engine behind it

A client that waits for each answer has cached nothing but what the engine holds, and once
it has listed the records it has cached all of them, in the engine's order. Cache and
engine go by different rules: the one puts in, replaces by number or leaves out, the other
appends or edits in place. What makes them agree is that the engine's numbers are distinct
and that a new one is a number no one has cached.

The last statement is about whole sequences of calls. It follows from one step lemma, in
which the request that a call sends is served and its reply absorbed.
-/

namespace Workflow

namespace Snapshot

variable {record old : Record} {records before after : List Record}

/-! ## Putting in and replacing -/

/-- What is not there yet is put at the end. -/
theorem putRecord_of_new (new : ∀ entry ∈ records, entry.id ≠ record.id) :
    putRecord record records = records ++ [record] := by
  induction records with
  | nil => rfl
  | cons entry rest ih =>
      obtain ⟨different, others⟩ := List.forall_mem_cons.mp new
      rw [putRecord, if_neg different, ih others]
      rfl

theorem mem_replaceRecord {entry : Record} (h : entry ∈ replaceRecord record records) :
    entry = record ∨ entry ∈ records ∧ entry.id ≠ record.id := by
  obtain ⟨kept, member, same⟩ := List.mem_map.mp h
  by_cases replaced : kept.id = record.id
  · rw [if_pos replaced] at same
    exact .inl same.symm
  · rw [if_neg replaced] at same
    exact .inr ⟨same ▸ member, same ▸ replaced⟩

/-- The only entry with its number is replaced where it stands. -/
theorem replaceRecord_of_split (distinct : ((before ++ record :: after).map Record.id).Nodup)
    (same : old.id = record.id) :
    replaceRecord record (before ++ old :: after) = before ++ record :: after := by
  have apart := Record.id_ne_of_nodup distinct
  rw [List.map_append, List.map_cons] at distinct
  obtain ⟨-, back, -⟩ := List.nodup_append.mp distinct
  have kept_before : replaceRecord record before = before := by
    refine (List.map_congr_left fun entry member => ?_).trans (List.map_id _)
    exact if_neg (apart entry member)
  have kept_after : replaceRecord record after = after := by
    refine (List.map_congr_left fun entry member => ?_).trans (List.map_id _)
    apply if_neg
    intro equal
    exact (List.nodup_cons.mp back).1 (equal ▸ List.mem_map_of_mem member)
  rw [replaceRecord] at kept_before kept_after ⊢
  rw [List.map_append, List.map_cons, if_pos same, kept_before, kept_after]

/-! ## Absorbing an answer of the engine -/

/-- Only records that an engine holds are cached. -/
structure Reflects (snapshot : Snapshot) (records : List Record) : Prop where
  cached : ∀ record ∈ snapshot.definitions, record ∈ records
  opened : ∀ record ∈ snapshot.current, record ∈ records

/-- Changed records are replaced among the cached ones, and opened or left alone. -/
theorem absorb_edit (snapshot : Snapshot) (record : Record) {request : Request} {id : Int64}
    {edit : Record → Record} (edits : request.edit? = some (id, edit)) :
    (snapshot.absorb request (.definition record)).definitions =
        replaceRecord record snapshot.definitions ∧
      ((snapshot.absorb request (.definition record)).current = some record ∨
        (snapshot.absorb request (.definition record)).current = snapshot.current ∧
          ∀ opened ∈ snapshot.current, opened.id ≠ record.id) := by
  cases request with
  | update id payload => exact ⟨rfl, .inl rfl⟩
  | setStatus id status =>
      rw [absorb, Request.writes]
      by_cases same : snapshot.current.any (·.id = record.id) = true
      · rw [if_pos same]
        exact ⟨rfl, .inl rfl⟩
      · rw [if_neg same]
        refine ⟨rfl, .inr ⟨rfl, ?_⟩⟩
        intro opened is_current equal
        apply same
        rw [is_current]
        simp [equal]
  | _ => cases edits

variable {snapshot : Snapshot} {engine next : LocalEngine} {clock : Clock} {request : Request}
  {reply : Reply}

/-- A cached record is found among the engine's after a change, or has been changed with it. -/
theorem Reflects.edit (reflects : snapshot.Reflects engine.definitions) {id : Int64}
    {edit : Record → Record} (edits : request.edit? = some (id, edit))
    (split : engine.definitions = before ++ old :: after) (same_id : record.id = old.id) :
    (snapshot.absorb request (.definition record)).Reflects (before ++ record :: after) := by
  obtain ⟨replaced, current⟩ := absorb_edit snapshot record edits
  have changed : record ∈ before ++ record :: after :=
    List.mem_append_right _ List.mem_cons_self
  have kept : ∀ entry ∈ engine.definitions, entry.id ≠ record.id →
      entry ∈ before ++ record :: after := by
    intro entry member different
    rw [split, List.mem_append, List.mem_cons] at member
    rw [List.mem_append, List.mem_cons]
    rcases member with front | rfl | back
    · exact .inl front
    · exact absurd same_id.symm different
    · exact .inr (.inr back)
  constructor
  · intro entry member
    rw [replaced] at member
    rcases mem_replaceRecord member with rfl | ⟨cached, different⟩
    · exact changed
    · exact kept entry (reflects.cached entry cached) different
  · intro opened is_current
    rcases current with now_open | ⟨unchanged, different⟩
    · rw [now_open] at is_current
      cases is_current
      exact changed
    · rw [unchanged] at is_current
      exact kept opened (reflects.opened opened is_current) (different opened is_current)

/-- Records that are cached stay in step with the engine when its answer is absorbed. -/
theorem Reflects.absorb (reflects : snapshot.Reflects engine.definitions)
    (serves : engine.Serves clock request (.ok reply) next) (numbered : next.Numbered) :
    (snapshot.absorb request reply).Reflects next.definitions := by
  cases serves with
  | lists => exact ⟨fun record member => member, reflects.opened⟩
  | shows record held =>
      refine ⟨reflects.cached, ?_⟩
      intro opened is_current
      cases is_current
      exact held
  | creates creation named free =>
      have new : ∀ entry ∈ snapshot.definitions, entry.id ≠ (engine.created clock creation).id := by
        intro entry member
        exact Record.id_ne_of_nodup numbered.ids_nodup entry (reflects.cached entry member)
      constructor
      · intro record member
        have appended : record ∈ snapshot.definitions ++ [engine.created clock creation] :=
          putRecord_of_new new ▸ member
        rw [List.mem_append] at appended
        exact List.mem_append.mpr (appended.imp_left (reflects.cached record))
      · intro opened is_current
        cases is_current
        exact List.mem_append_right _ List.mem_cons_self
  | edits request edit before old after edits split earlier =>
      exact reflects.edit edits split (Request.edit?_id edits old)
  | executes name context run => exact ⟨reflects.cached, reflects.opened⟩
  | showsRuns => exact reflects

/-- A list that the engine answers with is its own. -/
theorem absorb_list (serves : engine.Serves clock .list (.ok reply) next) :
    (snapshot.absorb .list reply).definitions = next.definitions := by
  cases serves with
  | lists => rfl
  | edits request edit before old after edits split earlier => cases edits

/-- A cached list that is the engine's own stays so. -/
theorem absorb_definitions (same : snapshot.definitions = engine.definitions)
    (serves : engine.Serves clock request (.ok reply) next) (numbered : next.Numbered) :
    (snapshot.absorb request reply).definitions = next.definitions := by
  cases serves with
  | lists => rfl
  | shows record held => exact same
  | creates creation named free =>
      have new : ∀ entry ∈ engine.definitions, entry.id ≠ (engine.created clock creation).id :=
        Record.id_ne_of_nodup numbered.ids_nodup
      exact (congrArg _ same).trans (putRecord_of_new new)
  | edits request edit before old after edits split earlier =>
      rw [(absorb_edit snapshot _ edits).1, same, split]
      apply replaceRecord_of_split numbered.ids_nodup
      rw [Record.stamped_id, Request.edit?_id edits old]
  | executes name context run => exact same
  | showsRuns => exact same

end Snapshot

namespace Client

variable {client next : Client LocalEngine} {clock : Clock} {call : Call} {told : List Report}

/-! ## One call -/

/-- What a call comes to: it is not sent, or refused, or its reply is merged. -/
inductive Settles (client : Client LocalEngine) (clock : Clock) (call : Call) :
    Client LocalEngine → List Report → Prop
  | unsent (error : CompileError) (told : List Report) :
      client.store.requestOf call = .error error → Report.stale ∉ told →
      Settles client clock call client told
  | refused (request : Request) (error : EngineError) (engine : LocalEngine)
      (told : List Report) : client.store.requestOf call = .ok request →
      client.engine.Serves clock request (.error error) engine → Report.stale ∉ told →
      Settles client clock call
        ⟨{ client.store with epoch := client.store.epoch + 1, loading := false }, engine⟩ told
  | merged (request : Request) (reply : Reply) (engine : LocalEngine) (merged : Merged)
      (told : List Report) : client.store.requestOf call = .ok request →
      client.engine.Serves clock request (.ok reply) engine →
      merged = client.store.replica.merge client.store.policy (client.store.epoch + 1) request
        reply →
      (Report.stale ∈ told ↔ merged.refused ≠ []) →
      Settles client clock call
        ⟨{ client.store with
            replica := merged.replica, epoch := client.store.epoch + 1, loading := false },
          engine⟩ told

theorem callLocal_settles (client : Client LocalEngine) (clock : Clock) (call : Call) :
    client.Settles clock call (client.callLocal clock call).1
      (client.callLocal clock call).2.1 := by
  rw [callLocal, Client.call]
  have serves := fun request => client.engine.serve_serves clock request
  cases sent : client.store.requestOf call with
  | error error =>
      rw [Store.start, sent]
      exact .unsent error _ sent (by simp)
  | ok request =>
      have served := client.engine.serve_serves clock request
      have dangling : Report.stale ∉ (client.store.warningsOf call).map .dangling := by simp
      rw [Store.start, sent]
      simp only
      generalize client.engine.serve clock request = result at served
      obtain ⟨answer, engine⟩ := result
      cases answer with
      | error error => exact .refused request error engine _ sent served (by simp [Store.settle])
      | ok reply =>
          refine .merged request reply engine _ _ sent served rfl ?_
          rw [List.mem_append, or_iff_right dangling]
          exact Store.stale_mem_settle_iff _ _ _

/-- A cache in step with its engine, with no call in flight and no write due to a later
call than the newest. -/
structure Coherent (client : Client LocalEngine) : Prop where
  numbered : client.engine.Numbered
  upTo : client.store.replica.marks.UpTo client.store.epoch
  reflects : client.store.snapshot.Reflects client.engine.definitions
  idle : client.store.loading = false

/-- All records of the engine are cached, in its order. -/
def Listed (client : Client LocalEngine) : Prop :=
  client.store.snapshot.definitions = client.engine.definitions

theorem coherent_start {records : List Record} (distinct : (records.map Record.id).Nodup)
    (policy : MergePolicy) (order : StepOrder) :
    Coherent ⟨.empty policy order, .ofRecords records⟩ where
  numbered := LocalEngine.numbered_ofRecords distinct
  upTo := Watermarks.upTo_zero 0
  reflects := by
    constructor
    · intro record member
      exact absurd member List.not_mem_nil
    · intro record is_current
      cases is_current
  idle := rfl

/-- Each call adds at most one record, which takes a number. -/
theorem Settles.length_cases (settles : client.Settles clock call next told) :
    (next.engine.definitions.length = client.engine.definitions.length ∧
        next.engine.lastDefinitionId = client.engine.lastDefinitionId) ∨
      (next.engine.definitions.length = client.engine.definitions.length + 1 ∧
        next.engine.lastDefinitionId = client.engine.lastDefinitionId + 1) := by
  cases settles with
  | unsent error told sent quiet => exact .inl ⟨rfl, rfl⟩
  | refused request error engine told sent serves quiet => exact serves.length_cases
  | merged request reply engine merged told sent serves done stale => exact serves.length_cases

theorem Coherent.settles (coherent : client.Coherent)
    (settles : client.Settles clock call next told)
    (room : client.engine.definitions.length < next.engine.definitions.length →
      client.engine.lastDefinitionId.toInt < Int64.maxValue.toInt) :
    next.Coherent ∧ Report.stale ∉ told ∧
      (client.Listed ∨ call = .request .list → next.Listed) := by
  have later := coherent.upTo.mono (Nat.le_succ client.store.epoch)
  cases settles with
  | unsent error told sent quiet =>
      refine ⟨coherent, quiet, ?_⟩
      rintro (listed | rfl)
      · exact listed
      · cases sent
  | refused request error engine told sent serves quiet =>
      have numbered : engine.Numbered := coherent.numbered.of_serves serves room
      cases serves with
      | fails request failure failed =>
          refine ⟨⟨numbered, later, coherent.reflects, rfl⟩, quiet, ?_⟩
          rintro (listed | rfl)
          · exact listed
          · cases sent
            cases failed
  | merged request reply engine merged told sent serves done stale =>
      have numbered : engine.Numbered := coherent.numbered.of_serves serves room
      obtain ⟨written, refused, upTo⟩ := Replica.performAll_of_upTo later client.store.policy
        (request.writes client.store.snapshot reply)
      have full : merged.replica.snapshot = client.store.snapshot.absorb request reply := by
        rw [done]
        exact Replica.merge_snapshot_of_full written
      have reflects : merged.replica.snapshot.Reflects engine.definitions := by
        rw [full]
        exact coherent.reflects.absorb serves numbered
      refine ⟨⟨numbered, done ▸ upTo, reflects, rfl⟩, ?_, ?_⟩
      · rw [stale, done]
        exact not_not_intro refused
      · intro listed
        have same : merged.replica.snapshot.definitions = engine.definitions := by
          rw [full]
          rcases listed with listed | rfl
          · exact Snapshot.absorb_definitions listed serves numbered
          · cases sent
            exact Snapshot.absorb_list serves
        exact same

/-! ## Sequences of calls -/

theorem runLocal_cons (client : Client LocalEngine) (clock : Clock) (call : Call)
    (rest : List (Clock × Call)) : (client.runLocal ((clock, call) :: rest)).1 =
      ((client.callLocal clock call).1.runLocal rest).1 := rfl

theorem told_runLocal_cons (client : Client LocalEngine) (clock : Clock) (call : Call)
    (rest : List (Clock × Call)) : (client.runLocal ((clock, call) :: rest)).2 =
      (client.callLocal clock call).2.1 ++ ((client.callLocal clock call).1.runLocal rest).2 := rfl

theorem runLocal_length_le (client : Client LocalEngine) (calls : List (Clock × Call)) :
    client.engine.definitions.length ≤ (client.runLocal calls).1.engine.definitions.length := by
  induction calls generalizing client with
  | nil => exact Nat.le_refl _
  | cons entry rest ih =>
      obtain ⟨clock, call⟩ := entry
      have grows := (client.callLocal_settles clock call).length_cases
      have later := ih (client.callLocal clock call).1
      rw [runLocal_cons]
      omega

theorem Coherent.run (coherent : client.Coherent) (calls : List (Clock × Call))
    (room : client.engine.lastDefinitionId.toInt +
        (client.runLocal calls).1.engine.definitions.length ≤
      Int64.maxValue.toInt + client.engine.definitions.length) :
    (client.runLocal calls).1.Coherent ∧ Report.stale ∉ (client.runLocal calls).2 ∧
      (client.Listed ∨ (∃ clock, (clock, .request .list) ∈ calls) →
        (client.runLocal calls).1.Listed) := by
  induction calls generalizing client with
  | nil =>
      refine ⟨coherent, List.not_mem_nil, ?_⟩
      rintro (listed | ⟨clock, absent⟩)
      · exact listed
      · exact absurd absent List.not_mem_nil
  | cons entry rest ih =>
      obtain ⟨clock, call⟩ := entry
      have settles := client.callLocal_settles clock call
      have later := (client.callLocal clock call).1.runLocal_length_le rest
      rw [runLocal_cons] at room ⊢
      -- a record that the call adds takes the next number, of which enough are left
      have numbers : client.engine.definitions.length <
          (client.callLocal clock call).1.engine.definitions.length →
          client.engine.lastDefinitionId.toInt < Int64.maxValue.toInt := by
        intro longer
        omega
      obtain ⟨still, quiet, listed⟩ := coherent.settles settles numbers
      have left : (client.callLocal clock call).1.engine.lastDefinitionId.toInt +
          ((client.callLocal clock call).1.runLocal rest).1.engine.definitions.length ≤
          Int64.maxValue.toInt + (client.callLocal clock call).1.engine.definitions.length := by
        rcases settles.length_cases with ⟨same, last⟩ | ⟨longer, last⟩
        · rw [same, last]
          exact room
        · rw [longer, last, LocalEngine.toInt_succ (numbers (by omega))]
          omega
      obtain ⟨after, silent, all⟩ := ih still left
      refine ⟨after, ?_, ?_⟩
      · rw [told_runLocal_cons, List.mem_append, not_or]
        exact ⟨quiet, silent⟩
      · rintro (before | ⟨time, member⟩)
        · exact all (.inl (listed (.inl before)))
        · rcases List.mem_cons.mp member with first | further
          · cases first
            exact all (.inl (listed (.inr rfl)))
          · exact all (.inr ⟨time, further⟩)

/-- The cache stays coherent with the engine. Let an engine start with records of distinct
numbers and let calls be made one after another, of any kind and at any times, as long as
there are numbers for the records that they add. Then every cached record and the open one
are what the engine holds under their numbers, and once the records have been listed the
cached list is the engine's own. No reply is ever stale and nothing is left loading. -/
theorem coherent_with_engine (policy : MergePolicy) (order : StepOrder) {records : List Record}
    (distinct : (records.map Record.id).Nodup) (calls : List (Clock × Call)) :
    let client : Client LocalEngine := ⟨.empty policy order, .ofRecords records⟩
    let after := (client.runLocal calls).1
    let added : Int := after.engine.definitions.length - records.length
    client.engine.lastDefinitionId.toInt + added ≤ Int64.maxValue.toInt →
      (∀ record ∈ after.store.snapshot.definitions,
        after.engine.definition? record.id = some record) ∧
      (∀ record ∈ after.store.current, after.engine.definition? record.id = some record) ∧
      ((∃ clock, (clock, .request .list) ∈ calls) →
        after.store.snapshot.definitions = after.engine.definitions) ∧
      Report.stale ∉ (client.runLocal calls).2 ∧ after.store.loading = false := by
  intro client after added room
  have start : client.Coherent := coherent_start distinct policy order
  have enough : client.engine.lastDefinitionId.toInt + after.engine.definitions.length ≤
      Int64.maxValue.toInt + client.engine.definitions.length := by
    have held : client.engine.definitions.length = records.length := rfl
    omega
  obtain ⟨coherent, quiet, listed⟩ := start.run calls enough
  refine ⟨?_, ?_, fun asked => listed (.inr asked), quiet, coherent.idle⟩
  · intro record cached
    exact coherent.numbered.definition?_eq_some (coherent.reflects.cached record cached)
  · intro record opened
    exact coherent.numbered.definition?_eq_some (coherent.reflects.opened record opened)

/-- Two records. -/
def twoRecords : List Record :=
  [{ (default : Record) with id := 3 }, { (default : Record) with id := -1 }]

/-- The second record is changed before the records are listed and after, and one is added. -/
def mixedCalls : List (Clock × Call) :=
  [(0, .request (.setStatus (-1) .archived)), (1, .request (.get 3)), (2, .request .list),
    (3, .request (.update (-1) default)), (4, .request (.get 9)),
    (5, .request (.create (.active ⟨"new", "1", "", none⟩)))]

theorem coherent_with_engine_mixedCalls :
    let client : Client LocalEngine := ⟨.empty .latestRequestWins .edges, .ofRecords twoRecords⟩
    let after := (client.runLocal mixedCalls).1
    let added : Int := after.engine.definitions.length - twoRecords.length
    (twoRecords.map Record.id).Nodup ∧
      client.engine.lastDefinitionId.toInt + added ≤ Int64.maxValue.toInt ∧
      (∀ record ∈ after.store.snapshot.definitions,
        after.engine.definition? record.id = some record) ∧
      (∀ record ∈ after.store.current, after.engine.definition? record.id = some record) ∧
      after.store.snapshot.definitions = after.engine.definitions ∧
      Report.stale ∉ (client.runLocal mixedCalls).2 ∧ after.store.loading = false := by
  intro client after added
  have distinct : (twoRecords.map Record.id).Nodup := by decide
  have three : after.engine.definitions.length = 3 := by rfl
  have room : client.engine.lastDefinitionId.toInt + added ≤ Int64.maxValue.toInt := by
    simp only [added, three]
    decide
  obtain ⟨cached, opened, listed, quiet, idle⟩ := coherent_with_engine .latestRequestWins .edges
    distinct mixedCalls room
  exact ⟨distinct, room, cached, opened, listed ⟨2, by simp [mixedCalls]⟩, quiet, idle⟩

end Client

end Workflow
