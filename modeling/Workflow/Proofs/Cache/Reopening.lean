import Workflow.Cache.Client
import Workflow.Proofs.Cache.InOrder
import Workflow.Proofs.Definition.Chain
import Workflow.Proofs.Engine.Execution
import Workflow.Proofs.Engine.Retention

/-!
# Saving, opening and running a graph

A graph that was saved can be worked on later. It opens as a graph of its compiled steps,
saving that graph changes nothing but the time of the last change, and a run of the record
ends at the last compiled step. The client may have done anything before, also with calls
that overlapped, and the engine may have served others, as long as nothing is open when
the graph is saved and the engine has numbers left.
-/

namespace Workflow

/-! ## Before the graph is saved -/

namespace LocalEngine

/-- An engine that started with records of distinct numbers has one left for a new record if
those it has added did not use them up. -/
theorem numbered_of_room {records : List Record} (distinct : (records.map Record.id).Nodup)
    (requests : List (Clock × Request)) :
    let seeded := ofRecords records
    let engine := seeded.serveAll requests
    let added : Int := engine.definitions.length - records.length
    seeded.lastDefinitionId.toInt + added < Int64.maxValue.toInt →
      engine.Numbered ∧ engine.lastDefinitionId.toInt < Int64.maxValue.toInt := by
  intro seeded engine added room
  have held : seeded.definitions.length = records.length := rfl
  have enough : seeded.lastDefinitionId.toInt + engine.definitions.length ≤
      Int64.maxValue.toInt + seeded.definitions.length := by
    omega
  obtain ⟨numbered, used⟩ : engine.Numbered ∧ engine.lastDefinitionId.toInt +
      seeded.definitions.length = seeded.lastDefinitionId.toInt + engine.definitions.length :=
    (numbered_ofRecords distinct).serveAll requests enough
  exact ⟨numbered, by omega⟩

/-- The last record is what its number stands for if no other has that number. -/
theorem definition?_of_fresh {engine : LocalEngine} {others : List Record} {record : Record}
    (last : engine.definitions = others ++ [record])
    (fresh : ∀ other ∈ others, other.id ≠ record.id) :
    engine.definition? record.id = some record := by
  refine List.find?_eq_some_iff_append.mpr ⟨decide_eq_true rfl, others, [], last, ?_⟩
  simpa using fresh

end LocalEngine

/-- However the calls of a session overlap, no mark is of a call that was not made yet. -/
theorem Session.upTo_run (policy : MergePolicy) (order : StepOrder) (events : List Session.Event) :
    ((ofStore (.empty policy order)).run events).store.replica.marks.UpTo
      ((ofStore (.empty policy order)).run events).store.epoch := by
  have accounts := run_accounts policy order events
  refine accounts.covers.upTo ?_
  intro entry member
  obtain ⟨receipt, merged, same, -⟩ := Receipt.mem_logAll.mp member
  exact same ▸ accounts.past_le receipt merged

/-! ## One call -/

namespace Client

variable {client : Client LocalEngine} {clock : Clock} {call : Call}

/-- No mark of the cache is of a later call than the newest. -/
def Current (client : Client LocalEngine) : Prop :=
  client.store.replica.marks.UpTo client.store.epoch

/-- What a call comes to whose request is answered with a reply. -/
structure Answered (client : Client LocalEngine) (call : Call) (request : Request) (reply : Reply)
    (engine : LocalEngine)
    (outcome : Client LocalEngine × List Report × Except CallError CallResult) :
    Prop where
  result : outcome.2.2 = (Store.finish call reply).2
  engine : outcome.1.engine = engine
  snapshot : outcome.1.store.snapshot = client.store.snapshot.absorb request reply
  current : outcome.1.Current

/-- A reply to the newest call is merged in full. -/
theorem Current.answered (current : client.Current) {request : Request} {reply : Reply}
    {engine : LocalEngine} (sent : client.store.requestOf call = .ok request)
    (served : client.engine.respond clock request = .ok (reply, engine)) :
    client.Answered call request reply engine (client.callLocal clock call) := by
  have later := Watermarks.UpTo.mono current (Nat.le_succ client.store.epoch)
  obtain ⟨written, -, upTo⟩ := Replica.performAll_of_upTo later client.store.policy
    (request.writes client.store.snapshot reply)
  have answered : client.engine.serve clock request = (.ok reply, engine) := by
    rw [LocalEngine.serve, served]
  rw [callLocal, Client.call, Store.start, sent]
  dsimp only
  rw [answered]
  exact ⟨rfl, rfl, Replica.merge_snapshot_of_full written, upTo⟩

/-- A call that gives a result was sent and answered. -/
theorem exists_of_callLocal_eq_ok {result : CallResult}
    (h : (client.callLocal clock call).2.2 = .ok result) :
    ∃ request reply engine, client.store.requestOf call = .ok request ∧
      client.engine.respond clock request = .ok (reply, engine) ∧
      (Store.finish call reply).2 = .ok result := by
  rw [callLocal, Client.call, Store.start] at h
  cases sent : client.store.requestOf call with
  | error error =>
      rw [sent] at h
      cases h
  | ok request =>
      rw [sent] at h
      dsimp only at h
      rw [LocalEngine.serve] at h
      cases served : client.engine.respond clock request with
      | error failure =>
          rw [served] at h
          cases h
      | ok answer =>
          obtain ⟨reply, engine⟩ := answer
          rw [served] at h
          exact ⟨request, reply, engine, rfl, served, h⟩

/-! ## Saving, opening, saving again, running -/

variable (clock) {graph : Graph} {name version : String} {description : Option String}
  {others : List Record} {record : Record} {definition : Definition}

/-- A graph that is saved while nothing is open is stored as a new record with the text of
its definition, under a name that no other record has. -/
theorem Current.saves (current : client.Current) (closed : client.store.current = none)
    (result : (client.callLocal clock (.saveGraph graph name version description)).2.2 =
      .ok (.reply (.definition record))) :
    ∃ definition request,
      client.Answered (.saveGraph graph name version description) request (.definition record)
        (client.engine.append record)
        (client.callLocal clock (.saveGraph graph name version description)) ∧
      graph.compile client.store.order name version = .ok definition ∧
      record.name = name ∧ record.version = version ∧ record.content = some definition.text ∧
      record.id = client.engine.lastDefinitionId + 1 ∧
      ∀ old ∈ client.engine.definitions, old.name ≠ name := by
  obtain ⟨request, reply, engine, sent, served, finished⟩ := exists_of_callLocal_eq_ok result
  cases (Except.ok.inj finished : CallResult.reply reply = .reply (.definition record))
  have answered := current.answered sent served
  obtain ⟨text, compiles, same⟩ := Except.map_eq_ok_iff.mp sent
  obtain ⟨definition, done, rfl⟩ := Except.map_eq_ok_iff.mp compiles
  rw [Store.saveRequest, closed] at same
  subst same
  obtain ⟨⟨made, next⟩, creates, same⟩ := Except.map_eq_ok_iff.mp served
  cases same
  obtain ⟨-, free, rfl, rfl⟩ := LocalEngine.create_eq_ok creates
  exact ⟨definition, _, answered, done, rfl, rfl, rfl, rfl, free⟩

/-- A record with a number of its own is opened as the graph of its content. -/
theorem Current.opens (current : client.Current)
    (last : client.engine.definitions = others ++ [record])
    (fresh : ∀ other ∈ others, other.id ≠ record.id)
    (content : record.content = some definition.text) {opened : Graph}
    (opens : Graph.ofDefinitionText definition.text = .ok opened) :
    client.Answered (.openForEdit record.id) (.get record.id) (.definition record)
        client.engine (client.callLocal clock (.openForEdit record.id)) ∧
      (client.callLocal clock (.openForEdit record.id)).2.2 = .ok (.graph opened) ∧
      (client.callLocal clock (.openForEdit record.id)).1.store.current = some record := by
  have held := LocalEngine.definition?_of_fresh last fresh
  have served : client.engine.respond clock (.get record.id) =
      .ok (.definition record, client.engine) := by
    rw [LocalEngine.respond, held]
  have sent : client.store.requestOf (.openForEdit record.id) = .ok (.get record.id) := rfl
  have answered := current.answered sent served
  have shown : Store.graphOf record = .ok opened := by
    rw [Store.graphOf, content]
    exact opens
  refine ⟨answered, ?_, ?_⟩
  · rw [answered.result, Store.finish, shown]
  · rw [Store.current, answered.snapshot]
    rfl

/-- A graph that compiles to the content of the open record changes nothing of it but the
time of its last change. -/
theorem Current.resaves (current : client.Current)
    (isOpen : client.store.current = some record)
    (last : client.engine.definitions = others ++ [record])
    (fresh : ∀ other ∈ others, other.id ≠ record.id)
    (content : record.content = some definition.text)
    (compiles : graph.compile client.store.order record.name record.version = .ok definition) :
    client.Answered (.saveGraph graph record.name record.version record.description)
      (.update record.id ⟨record.name, record.version, definition.text, record.description⟩)
      (.definition (record.stamped clock))
      { client.engine with definitions := others ++ [record.stamped clock] }
      (client.callLocal clock
        (.saveGraph graph record.name record.version record.description)) := by
  have held := LocalEngine.definition?_of_fresh last fresh
  let payload : Payload := ⟨record.name, record.version, definition.text, record.description⟩
  have sent : client.store.requestOf
      (.saveGraph graph record.name record.version record.description) =
        .ok (.update record.id payload) := by
    have asked : client.store.saveRequest payload = .update record.id payload := by
      rw [Store.saveRequest, isOpen]
    rw [Store.requestOf, Graph.compileText, compiles, ← asked]
    rfl
  have unchanged : LocalEngine.withPayload payload record = record := by
    obtain ⟨_, _, _, _, _, _, _, _, _⟩ := record
    cases content
    rfl
  obtain ⟨before, after, split, -, -, done⟩ :=
    LocalEngine.change_of_definition? clock (LocalEngine.withPayload payload) held
  have notListed : record ∉ others := fun listed => fresh record listed rfl
  rw [last, List.append_cons_inj_of_notMem notListed List.not_mem_nil] at split
  obtain ⟨rfl, -, rfl⟩ := split
  refine current.answered sent ?_
  rw [LocalEngine.respond, done, unchanged]
  rfl

/-- A record with a name of its own and the text of a definition is run to its end. -/
theorem Current.runs (current : client.Current)
    (last : client.engine.definitions = others ++ [record])
    (free : ∀ other ∈ others, other.name ≠ record.name)
    (content : record.content = some definition.text) (context : Json) :
    ∃ run, LocalEngine.Completes run record definition ∧
      client.Answered (.request (.execute record.name context)) (.execute record.name context)
        .executed { client.engine with
          runs := client.engine.runs ++ [run], lastRunId := client.engine.lastRunId + 1 }
        (client.callLocal clock (.request (.execute record.name context))) := by
  have named : client.engine.named? record.name = some record := by
    refine List.find?_eq_some_iff_append.mpr ⟨decide_eq_true rfl, others, [], last, ?_⟩
    simpa using free
  obtain ⟨run, completes, done⟩ := LocalEngine.execute_of_text clock named content
  refine ⟨run, completes, current.answered rfl ?_⟩
  rw [LocalEngine.respond, done]
  rfl

/-- A graph that is saved while nothing is open can be opened again, saved again and run. Let
an engine start with records of distinct numbers and serve any requests that leave it a
number, and let the calls of the client so far overlap in any way. If a graph without blank
step names is then saved as a record, the record opens as a graph; that graph saved under
the record's own name, version and description changes nothing but the time of the record's
last change; and running the record by its name adds one run, which completes at the last
step of the compiled definition. -/
theorem saved_graph_reopens (policy : MergePolicy) (order : StepOrder) {records : List Record}
    (distinct : (records.map Record.id).Nodup) (requests : List (Clock × Request))
    (events : List Session.Event) (reachable : graph.Reachable)
    (notBlank : ∀ step ∈ graph.names, isBlank step = false)
    (savedAt openedAt resavedAt ranAt : Clock) (context : Json) :
    let seeded := LocalEngine.ofRecords records
    let engine := seeded.serveAll requests
    let client : Client LocalEngine :=
      ⟨((Session.ofStore (.empty policy order)).run events).store, engine⟩
    let added : Int := engine.definitions.length - records.length
    let saved := client.callLocal savedAt (.saveGraph graph name version description)
    seeded.lastDefinitionId.toInt + added < Int64.maxValue.toInt →
    client.store.current = none → saved.2.2 = .ok (.reply (.definition record)) →
      ∃ definition opened,
        let reopened := saved.1.callLocal openedAt (.openForEdit record.id)
        let resaved := reopened.1.callLocal resavedAt
          (.saveGraph opened record.name record.version record.description)
        let ran := resaved.1.callLocal ranAt (.request (.execute record.name context))
        graph.compile client.store.order name version = .ok definition ∧
        saved.1.engine.definitions = engine.definitions ++ [record] ∧
        reopened.2.2 = .ok (.graph opened) ∧
        resaved.2.2 = .ok (.reply (.definition (record.stamped resavedAt))) ∧
        resaved.1.engine.definitions = engine.definitions ++ [record.stamped resavedAt] ∧
        ran.2.2 = .ok (.reply .executed) ∧
        ran.1.engine.definitions = resaved.1.engine.definitions ∧
        ∃ run, ran.1.engine.runs = engine.runs ++ [run] ∧
          LocalEngine.Completes run record definition := by
  intro seeded engine client added saved room closed result
  obtain ⟨numbered, left⟩ := LocalEngine.numbered_of_room distinct requests room
  have current : client.Current := Session.upTo_run policy order events
  obtain ⟨definition, request, afterSave, compiles, rfl, rfl, content, id, free⟩ :=
    current.saves savedAt closed result
  have fresh : ∀ other ∈ engine.definitions, other.id ≠ record.id :=
    id ▸ numbered.id_ne_succ left
  obtain ⟨opened, opens, recompiles⟩ :=
    Graph.exists_recompile reachable.wellFormed notBlank compiles
  refine ⟨definition, opened, ?_⟩
  intro reopened resaved ran
  have stored : saved.1.engine.definitions = engine.definitions ++ [record] :=
    congrArg LocalEngine.definitions afterSave.engine
  obtain ⟨afterOpen, shown, isOpen⟩ :=
    afterSave.current.opens openedAt stored fresh content opens
  have kept : reopened.1.engine.definitions = engine.definitions ++ [record] :=
    (congrArg LocalEngine.definitions afterOpen.engine).trans stored
  have afterResave := afterOpen.current.resaves resavedAt isOpen kept fresh content
    (recompiles _)
  have stamped : resaved.1.engine.definitions =
      engine.definitions ++ [record.stamped resavedAt] :=
    congrArg LocalEngine.definitions afterResave.engine
  obtain ⟨run, completes, afterRun⟩ :=
    afterResave.current.runs ranAt stamped free content context
  have runs : resaved.1.engine.runs = engine.runs := by
    rw [afterResave.engine, afterOpen.engine, afterSave.engine]
    rfl
  exact ⟨compiles, stored, shown, afterResave.result, stamped, afterRun.result,
    (congrArg LocalEngine.definitions afterRun.engine).trans rfl, run,
    (congrArg LocalEngine.runs afterRun.engine).trans (congrArg (· ++ [run]) runs),
    completes.definitionId, completes.status, completes.errorMessage, completes.currentStep⟩

/-- What becomes of `parallelPair` when it is saved. -/
def storedPair : Record :=
  let steps : List Step := [⟨"call", .externalEvent "WORKFLOW_EVENT"⟩, ⟨"wait", .delay 1000⟩]
  { (default : Record) with
    id := 9
    name := "pair"
    version := "1"
    content := some (Definition.mk "pair" "1" steps).text
    status := .active
    createdAt := (3 : Clock).started }

theorem saved_graph_reopens_storedPair :
    let seeds := [LocalEngine.recordNamed 7 "orders"]
    let engine := (LocalEngine.ofRecords seeds).serveAll LocalEngine.reusedName
    let client : Client LocalEngine :=
      ⟨((Session.ofStore (.empty .latestRequestWins .edges)).run
        (Session.overlappingCalls storedPair)).store, engine⟩
    let added : Int := engine.definitions.length - seeds.length
    let saved := client.callLocal 3 (.saveGraph Graph.parallelPair "pair" "1" none)
    (LocalEngine.ofRecords seeds).lastDefinitionId.toInt + added < Int64.maxValue.toInt ∧
    client.store.current = none ∧ saved.2.2 = .ok (.reply (.definition storedPair)) ∧
      ∃ definition opened,
        let reopened := saved.1.callLocal 4 (.openForEdit storedPair.id)
        let resaved := reopened.1.callLocal 5 (.saveGraph opened
          storedPair.name storedPair.version storedPair.description)
        let ran := resaved.1.callLocal 6 (.request (.execute storedPair.name .null))
        Graph.parallelPair.compile client.store.order "pair" "1" = .ok definition ∧
        saved.1.engine.definitions = engine.definitions ++ [storedPair] ∧
        reopened.2.2 = .ok (.graph opened) ∧
        resaved.2.2 = .ok (.reply (.definition (storedPair.stamped 5))) ∧
        resaved.1.engine.definitions = engine.definitions ++ [storedPair.stamped 5] ∧
        ran.2.2 = .ok (.reply .executed) ∧
        ran.1.engine.definitions = resaved.1.engine.definitions ∧
        ∃ run, ran.1.engine.runs = engine.runs ++ [run] ∧
          LocalEngine.Completes run storedPair definition := by
  intro seeds engine client added saved
  have built : Graph.ofParts Graph.parallelPair.steps Graph.parallelPair.edges =
      .ok Graph.parallelPair := by rfl
  have distinct : (seeds.map Record.id).Nodup := by decide
  have room : (LocalEngine.ofRecords seeds).lastDefinitionId.toInt + added <
      Int64.maxValue.toInt := by
    decide +kernel
  have closed : client.store.current = none := by rfl
  have stored : saved.2.2 = .ok (.reply (.definition storedPair)) := by
    decide +kernel
  have notBlank : ∀ step ∈ Graph.parallelPair.names, isBlank step = false := by
    decide +kernel
  have reopens := saved_graph_reopens .latestRequestWins .edges distinct
    LocalEngine.reusedName (Session.overlappingCalls storedPair) (.ofParts built)
    notBlank 3 4 5 6 .null room closed stored
  -- without its abbreviations the goal is what was shown, and nothing is left to compute
  dsimp only [saved, client, engine, seeds] at reopens ⊢
  exact ⟨room, closed, stored, reopens⟩

end Client

end Workflow
