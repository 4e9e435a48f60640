import Workflow.Engine.Local
import Workflow.Proofs.Success
import Mathlib.Data.List.Nodup

/-!
# What a local engine does

Serving a request leaves the records alone, or puts a new one at their end, or changes one
where it stands. The relation below says so in one place, together with the answers, and
what an engine keeps up while it serves is derived from it.

Records are told apart by their numbers. These stay distinct as long as the numbers last,
because a new record is numbered after all that there are.
-/

namespace Workflow

/-- The number of the record that a request changes, and the change apart from its time. -/
def Request.edit? : Request → Option (Int64 × (Record → Record))
  | .update id payload => some (id, LocalEngine.withPayload payload)
  | .setStatus id status => some (id, fun record => { record with status })
  | _ => none

/-- A change leaves the number of a record alone. -/
theorem Request.edit?_id {request : Request} {id : Int64} {edit : Record → Record}
    (edits : request.edit? = some (id, edit)) (record : Record) : (edit record).id = record.id := by
  cases request with
  | update id payload =>
      cases edits
      rfl
  | setStatus id status =>
      cases edits
      rfl
  | _ => cases edits

/-- A change leaves the time at which a record was made alone. -/
theorem Request.edit?_createdAt {request : Request} {id : Int64} {edit : Record → Record}
    (edits : request.edit? = some (id, edit)) (record : Record) :
    (edit record).createdAt = record.createdAt := by
  cases request with
  | update id payload =>
      cases edits
      rfl
  | setStatus id status =>
      cases edits
      rfl
  | _ => cases edits

/-- A record that has changed bears the time of the change. -/
def Record.stamped (record : Record) (clock : Clock) : Record :=
  { record with updatedAt := some clock.started }

@[simp] theorem Record.stamped_id (record : Record) (clock : Clock) :
    (record.stamped clock).id = record.id := rfl

/-- Where numbers are distinct, no record before another one has its number. -/
theorem Record.id_ne_of_nodup {before after : List Record} {record : Record}
    (distinct : ((before ++ record :: after).map Record.id).Nodup) :
    ∀ other ∈ before, other.id ≠ record.id := by
  intro other earlier
  rw [List.map_append, List.map_cons] at distinct
  exact (List.nodup_append.mp distinct).2.2 _ (List.mem_map_of_mem earlier) _ List.mem_cons_self

namespace LocalEngine

variable {engine next : LocalEngine} {clock : Clock}

/-! ## The operations -/

/-- The record that a creation request makes. -/
def created (engine : LocalEngine) (clock : Clock) (creation : Creation) : Record where
  id := engine.lastDefinitionId + 1
  name := creation.payload.name
  description := creation.payload.description
  version := creation.payload.version
  content := some creation.payload.content
  status := creation.status
  createdBy := none
  createdAt := clock.started
  updatedAt := none

@[simp] theorem created_id (creation : Creation) :
    (engine.created clock creation).id = engine.lastDefinitionId + 1 := rfl

/-- The engine with one more record. -/
def append (engine : LocalEngine) (record : Record) : LocalEngine :=
  { engine with definitions := engine.definitions ++ [record], lastDefinitionId := record.id }

theorem create_eq_ok {creation : Creation} {record : Record}
    (h : engine.create clock creation = .ok (record, next)) :
    creation.payload.name ≠ "" ∧
      (∀ old ∈ engine.definitions, old.name ≠ creation.payload.name) ∧
      record = engine.created clock creation ∧ next = engine.append record := by
  rw [create] at h
  by_cases unnamed : creation.payload.name = ""
  · rw [if_pos unnamed] at h
    cases h
  by_cases taken : (engine.named? creation.payload.name).isSome = true
  · rw [if_neg unnamed, if_pos taken] at h
    cases h
  rw [if_neg unnamed, if_neg taken] at h
  cases h
  refine ⟨unnamed, ?_, rfl, rfl⟩
  intro old member same
  apply taken
  rw [named?, List.find?_isSome]
  exact ⟨old, member, decide_eq_true same⟩

/-- The first record with a number is changed where it stands. -/
theorem change_of_definition? {id : Int64} {old : Record} (clock : Clock) (edit : Record → Record)
    (found : engine.definition? id = some old) :
    ∃ before after, engine.definitions = before ++ old :: after ∧
      (∀ other ∈ before, other.id ≠ id) ∧ old.id = id ∧
      engine.change clock id edit = .ok ((edit old).stamped clock,
        { engine with definitions := before ++ (edit old).stamped clock :: after }) := by
  obtain ⟨same, before, after, split, earlier⟩ := List.find?_eq_some_iff_append.mp found
  have place : engine.definitions.findIdx? (·.id = id) = some before.length := by
    have none_before : before.findIdx? (·.id = id) = none := by
      rw [List.findIdx?_eq_none_iff]
      simpa using earlier
    rw [split, List.findIdx?_append, none_before, List.findIdx?_cons, same]
    simp
  refine ⟨before, after, split, by simpa using earlier, of_decide_eq_true same, ?_⟩
  rw [change, found, place]
  simp [split, Record.stamped]

theorem change_eq_ok {id : Int64} {edit : Record → Record} {record : Record}
    (h : engine.change clock id edit = .ok (record, next)) :
    ∃ before old after, engine.definitions = before ++ old :: after ∧
      (∀ other ∈ before, other.id ≠ id) ∧ old.id = id ∧ record = (edit old).stamped clock ∧
      next = { engine with definitions := before ++ record :: after } := by
  cases found : engine.definition? id with
  | none =>
      rw [change, found] at h
      cases h
  | some old =>
      obtain ⟨before, after, split, earlier, same, done⟩ := change_of_definition? clock edit found
      rw [done] at h
      cases h
      exact ⟨before, old, after, split, earlier, same, rfl, rfl⟩

/-- The first record with a name is run, and the run refers to it. -/
theorem execute_of_named? (clock : Clock) {name : String} {record : Record}
    (found : engine.named? name = some record) : ∃ run : Run, run.definitionId = record.id ∧
      engine.execute clock name = .ok { engine with
        runs := engine.runs ++ [run], lastRunId := engine.lastRunId + 1 } := by
  rw [execute, found]
  exact ⟨_, rfl, rfl⟩

/-- A run is recorded under the next number. -/
theorem execute_eq_ok {name : String} (h : engine.execute clock name = .ok next) :
    ∃ run : Run, run.id = engine.lastRunId + 1 ∧ next = { engine with
      runs := engine.runs ++ [run], lastRunId := engine.lastRunId + 1 } := by
  rw [execute] at h
  cases found : engine.named? name with
  | none =>
      rw [found] at h
      cases h
  | some record =>
      rw [found] at h
      cases h
      exact ⟨_, rfl, rfl⟩

/-- What serving a request does, and how it is answered. -/
inductive Serves (engine : LocalEngine) (clock : Clock) :
    Request → Except EngineError Reply → LocalEngine → Prop
  | fails (request : Request) (failure : Failure) :
      engine.respond clock request = .error failure →
      Serves engine clock request (.error ⟨request.operation, failure⟩) engine
  | lists : Serves engine clock .list (.ok (.definitions engine.definitions)) engine
  | shows (record : Record) : record ∈ engine.definitions →
      Serves engine clock (.get record.id) (.ok (.definition record)) engine
  | creates (creation : Creation) : creation.payload.name ≠ "" →
      (∀ old ∈ engine.definitions, old.name ≠ creation.payload.name) →
      Serves engine clock (.create creation) (.ok (.definition (engine.created clock creation)))
        (engine.append (engine.created clock creation))
  | edits (request : Request) (edit : Record → Record) (before : List Record) (old : Record)
      (after : List Record) : request.edit? = some (old.id, edit) →
      engine.definitions = before ++ old :: after → (∀ other ∈ before, other.id ≠ old.id) →
      Serves engine clock request (.ok (.definition ((edit old).stamped clock)))
        { engine with definitions := before ++ (edit old).stamped clock :: after }
  | executes (name : String) (context : Json) (run : Run) : run.id = engine.lastRunId + 1 →
      Serves engine clock (.execute name context) (.ok .executed)
        { engine with runs := engine.runs ++ [run], lastRunId := engine.lastRunId + 1 }
  | showsRuns : Serves engine clock .runs (.ok (.runs engine.runs)) engine

/-- A change of a record is served by editing it in place. -/
theorem serves_of_change {request : Request} {id : Int64} {edit : Record → Record}
    (edits : request.edit? = some (id, edit))
    {record : Record} (h : engine.change clock id edit = .ok (record, next)) :
    engine.Serves clock request (.ok (.definition record)) next := by
  obtain ⟨before, old, after, split, earlier, rfl, rfl, rfl⟩ := change_eq_ok h
  exact .edits request edit before old after edits split earlier

theorem serves_of_respond {request : Request} {reply : Reply}
    (h : engine.respond clock request = .ok (reply, next)) :
    engine.Serves clock request (.ok reply) next := by
  cases request with
  | list =>
      cases h
      exact .lists
  | get id =>
      rw [respond] at h
      cases found : engine.definition? id with
      | none =>
          rw [found] at h
          cases h
      | some record =>
          rw [found] at h
          cases h
          have same : record.id = id := of_decide_eq_true (List.find?_some found :)
          exact same ▸ .shows record (List.mem_of_find?_eq_some found)
  | create creation =>
      obtain ⟨⟨record, other⟩, done, same⟩ := Except.map_eq_ok_iff.mp h
      cases same
      obtain ⟨named, free, rfl, rfl⟩ := create_eq_ok done
      exact .creates creation named free
  | update id payload =>
      obtain ⟨⟨record, other⟩, done, same⟩ := Except.map_eq_ok_iff.mp h
      cases same
      exact serves_of_change rfl done
  | execute name context =>
      obtain ⟨other, done, same⟩ := Except.map_eq_ok_iff.mp h
      cases same
      obtain ⟨run, number, rfl⟩ := execute_eq_ok done
      exact .executes name context run number
  | setStatus id status =>
      obtain ⟨⟨record, other⟩, done, same⟩ := Except.map_eq_ok_iff.mp h
      cases same
      exact serves_of_change rfl done
  | runs =>
      cases h
      exact .showsRuns

theorem serve_serves (engine : LocalEngine) (clock : Clock) (request : Request) :
    engine.Serves clock request (engine.serve clock request).1 (engine.serve clock request).2 := by
  rw [serve]
  cases result : engine.respond clock request with
  | ok answer => exact serves_of_respond result
  | error failure => exact .fails request failure result

/-! ## Numbers -/

/-- Each record has a number of its own, and none is after the number of the newest. -/
structure Numbered (engine : LocalEngine) : Prop where
  ids_nodup : (engine.definitions.map Record.id).Nodup
  id_le : ∀ record ∈ engine.definitions, record.id.toInt ≤ engine.lastDefinitionId.toInt

theorem numbered_ofRecords {records : List Record} (distinct : (records.map Record.id).Nodup) :
    (ofRecords records).Numbered where
  ids_nodup := distinct
  id_le record member := by
    have listed : record.id.toInt ∈ records.map (·.id.toInt) :=
      List.mem_map.mpr ⟨record, member, rfl⟩
    cases highest : (records.map (·.id.toInt)).max? with
    | none =>
        rw [List.max?_eq_none_iff.mp highest] at listed
        exact absurd listed List.not_mem_nil
    | some top =>
        obtain ⟨held, above⟩ := List.max?_eq_some_iff.mp highest
        obtain ⟨newest, -, same⟩ := List.mem_map.mp held
        have last : (ofRecords records).lastDefinitionId = newest.id := by
          rw [ofRecords, highest, Option.getD_some, ← same, Int64.ofInt_toInt]
        rw [last, same]
        exact above _ listed

/-- Numbers go up by one as long as there are any left. -/
theorem toInt_succ {id : Int64} (room : id.toInt < Int64.maxValue.toInt) :
    (id + 1).toInt = id.toInt + 1 := by
  have low := id.le_toInt
  rw [Int64.toInt_maxValue] at room
  rw [Int64.toInt_add, Int64.toInt_one]
  apply Int.bmod_eq_of_le
  · omega
  · omega

/-- A record is what its number stands for. -/
theorem Numbered.definition?_eq_some (numbered : engine.Numbered) {record : Record}
    (held : record ∈ engine.definitions) : engine.definition? record.id = some record := by
  obtain ⟨before, after, split⟩ := List.append_of_mem held
  have distinct := numbered.ids_nodup
  rw [split] at distinct
  apply List.find?_eq_some_iff_append.mpr
  refine ⟨decide_eq_true rfl, before, after, split, ?_⟩
  intro other earlier
  simpa using Record.id_ne_of_nodup distinct other earlier

/-- The number that a new record takes is that of no other, as long as there is one left. -/
theorem Numbered.id_ne_succ (numbered : engine.Numbered)
    (room : engine.lastDefinitionId.toInt < Int64.maxValue.toInt) :
    ∀ record ∈ engine.definitions, record.id ≠ engine.lastDefinitionId + 1 := by
  intro record member same
  have le := numbered.id_le record member
  rw [same, toInt_succ room] at le
  omega

/-- Numbers stay distinct as long as there are any left. -/
theorem Numbered.of_serves (numbered : engine.Numbered) {request : Request}
    {answer : Except EngineError Reply} (serves : engine.Serves clock request answer next)
    (room : engine.definitions.length < next.definitions.length →
      engine.lastDefinitionId.toInt < Int64.maxValue.toInt) : next.Numbered := by
  cases serves with
  | creates creation named free =>
      have longer : engine.definitions.length <
          (engine.append (engine.created clock creation)).definitions.length := by
        simp [append]
      have next_id := toInt_succ (room longer)
      constructor
      · rw [append, List.map_append]
        refine List.nodup_append.mpr ⟨numbered.ids_nodup, List.nodup_singleton _, ?_⟩
        intro id listed newest last same
        obtain ⟨record, member, rfl⟩ := List.mem_map.mp listed
        rw [List.map_singleton, List.mem_singleton, created_id] at last
        exact numbered.id_ne_succ (room longer) record member (same.trans last)
      · intro record member
        rw [append] at member ⊢
        simp only [created_id, next_id]
        rcases List.mem_append.mp member with old | new
        · have := numbered.id_le record old
          omega
        · rw [List.mem_singleton.mp new, created_id]
          omega
  | edits request edit before old after edits split earlier =>
      have same_id : (edit old).id = old.id := Request.edit?_id edits old
      have distinct := numbered.ids_nodup
      have le := numbered.id_le
      rw [split] at distinct le
      constructor
      · simpa [same_id] using distinct
      · intro record member
        simp only [List.mem_append, List.mem_cons] at member le
        rcases member with front | rfl | back
        · exact le record (.inl front)
        · rw [Record.stamped_id, same_id]
          exact le old (.inr (.inl rfl))
        · exact le record (.inr (.inr back))
  | fails request failure failed => exact numbered
  | lists => exact numbered
  | shows record held => exact numbered
  | executes name context run => exact ⟨numbered.ids_nodup, numbered.id_le⟩
  | showsRuns => exact numbered

/-- No record is removed, and each new one takes a number. -/
theorem Serves.length_cases {request : Request} {answer : Except EngineError Reply}
    (serves : engine.Serves clock request answer next) :
    (next.definitions.length = engine.definitions.length ∧
        next.lastDefinitionId = engine.lastDefinitionId) ∨
      (next.definitions.length = engine.definitions.length + 1 ∧
        next.lastDefinitionId = engine.lastDefinitionId + 1) := by
  cases serves with
  | creates creation named free =>
      right
      simp [append]
  | edits request edit before old after edits split earlier =>
      left
      simp [split]
  | fails request failure failed => exact .inl ⟨rfl, rfl⟩
  | lists => exact .inl ⟨rfl, rfl⟩
  | shows record held => exact .inl ⟨rfl, rfl⟩
  | executes name context run => exact .inl ⟨rfl, rfl⟩
  | showsRuns => exact .inl ⟨rfl, rfl⟩

end LocalEngine

end Workflow
