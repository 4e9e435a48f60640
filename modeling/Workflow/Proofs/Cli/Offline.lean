import Workflow.Cli.Run
import Workflow.Proofs.Json.Cut
import Workflow.Proofs.Cache.Reopening
import Workflow.Proofs.Engine.Wire

/-!
# What a command makes of the offline file

The local engine lives as long as one command. What it holds is read from a file, and whatever
the command comes to is written back. The relation `Makes` says what may have become of the
records then: nothing, unless a command that succeeded was to save one, to update one or to
change its status.
-/

namespace Workflow

/-! ## Records in a file -/

namespace Record

theorem legible (record : Record) : record.toJson.Legible :=
  toJson_eq record ▸ .object (forall_mem_filled record.legible_fields)

theorem legible_listToJson (records : List Record) : (listToJson records).Legible := by
  refine .array ?_
  simp only [List.forall_mem_map]
  exact fun record _ => record.legible

/-- Records are read from a text that was written for them. -/
theorem listOfText?_pretty {records : List Record}
    (normal : ∀ record ∈ records, ∀ t ∈ record.times, t.Normal) :
    listOfText? (listToJson records).pretty = some records := by
  rw [listOfText?, (legible_listToJson records).read_pretty]
  refine ParseTree.list?_ofJson fun record member => ?_
  rw [ofTree?_ofJson, normalized_eq_self_iff.mpr (normal record member)]

/-- No records are read from the text for some when it is cut short. -/
theorem listOfText?_of_cut {records : List Record} {front back : String}
    (split : (listToJson records).pretty = front ++ back) (cut : back ≠ "") :
    listOfText? front = none := by
  rw [listOfText?, Json.read_eq_none_of_cut (legible_listToJson records) split cut]
  rfl

theorem normal_of_listOfText? {text : String} {records : List Record}
    (read : listOfText? text = some records) :
    ∀ record ∈ records, ∀ t ∈ record.times, t.Normal := by
  obtain ⟨tree, -, read⟩ := Option.bind_eq_some_iff.mp read
  cases tree with
  | array items => exact Option.forall_of_mapM_eq_some (fun _ _ => normal_of_ofTree?) read
  | _ => cases read

end Record

/-- The records in a file. Where there is no file there are none, and some files hold no list of
records. -/
def FileContent.records? : FileContent → Option (List Record)
  | .missing => some []
  | .unreadable => none
  | .text content => Record.listOfText? content

/-- What is read from a file holds no stray leap seconds. -/
theorem FileContent.normal_of_records? {content : FileContent} {records : List Record}
    (held : content.records? = some records) :
    ∀ record ∈ records, ∀ t ∈ record.times, t.Normal := by
  cases content with
  | missing =>
      cases held
      exact List.forall_mem_nil _
  | unreadable => cases held
  | text text => exact Record.normal_of_listOfText? held

theorem World.offlineEngine_of_records {world : World} {path : String} {records : List Record}
    (held : (world.file path).records? = some records) :
    world.offlineEngine path = .ok (.ofRecords records) := by
  rw [offlineEngine]
  cases content : world.file path with
  | missing =>
      rw [content] at held
      cases held
      rfl
  | unreadable =>
      rw [content] at held
      cases held
  | text text =>
      rw [content] at held
      have held : Record.listOfText? text = some records := held
      simp only [Cause.ofFile, bind, Except.bind, held]
      rfl

/-- A file that holds no list of records is refused. -/
theorem World.offlineEngine_of_no_records {world : World} {path : String}
    (held : (world.file path).records? = none) :
    ∃ causes, causes ≠ [] ∧ world.offlineEngine path = .error causes := by
  rw [offlineEngine]
  cases content : world.file path with
  | missing =>
      rw [content] at held
      cases held
  | unreadable => exact ⟨_, List.cons_ne_nil _ _, rfl⟩
  | text text =>
      rw [content] at held
      have held : Record.listOfText? text = none := held
      simp only [Cause.ofFile, bind, Except.bind, held]
      exact ⟨_, List.cons_ne_nil _ _, rfl⟩

/-! ## What goes wrong has a cause -/

theorem Cause.ofCallError_ne_nil (error : CallError) : ofCallError error ≠ [] := by
  cases error <;> exact List.cons_ne_nil _ _

theorem World.ne_nil_of_graph {world : World} {path : String} {causes : List Cause}
    (failed : world.graph path = .error causes) : causes ≠ [] := by
  rcases Except.bind_eq_error_iff.mp failed with unread | ⟨content, -, malformed⟩
  · cases file : world.file path <;> rw [file] at unread <;> cases unread <;>
      exact List.cons_ne_nil _ _
  · dsimp only at malformed
    split at malformed <;> cases malformed <;> exact List.cons_ne_nil _ _

theorem World.ne_nil_of_context {world : World} {causes : List Cause}
    (failed : world.context = .error causes) : causes ≠ [] := by
  unfold context at failed
  split at failed
  · cases failed
  · cases failed
    exact List.cons_ne_nil _ _
  · split at failed
    · cases failed
    · split at failed <;> cases failed
      exact List.cons_ne_nil _ _

/-! ## Commands -/

namespace Command

/-- Whether a command needs an engine. -/
def engages : Command → Bool
  | .describe _ | .compile .. | .load _ => false
  | _ => true

/-- Whether a command only asks an engine for what it holds, or has it run a definition. -/
def reads : Command → Bool
  | .list | .show _ | .runs | .execute _ => true
  | _ => false

/-- The number of the record that a command is to change. -/
def target? : Command → Option Int64
  | .update id .. | .status id _ => some id
  | _ => none

/-- What becomes of the records of a local engine by a command that has come to a result. -/
inductive Makes (clock : Clock) (before : List Record) :
    Command → Except (List Cause) Printed → List Record → Prop
  | fails (command : Command) (causes : List Cause) : causes ≠ [] →
      Makes clock before command (.error causes) before
  | reads (command : Command) (printed : Printed) : command.reads = true →
      Makes clock before command (.ok printed) before
  | saves (path name version : String) (description : Option String) (record : Record) :
      record.status = .active → record.name = name → record.version = version →
      record.description = description →
      record.createdAt = clock.started → record.updatedAt = none →
      record.id = (LocalEngine.ofRecords before).lastDefinitionId + 1 →
      Makes clock before (.save path name version description) (.ok ⟨record.toJson.printed, []⟩)
        (before ++ [record])
  | changes (command : Command) (front : List Record) (old new : Record) (back : List Record) :
      command.target? = some old.id → new.id = old.id → new.createdAt = old.createdAt →
      new.updatedAt = some clock.started → before = front ++ old :: back →
      (∀ other ∈ front, other.id ≠ old.id) →
      Makes clock before command (.ok ⟨new.toJson.printed, []⟩) (front ++ new :: back)

namespace Makes

variable {clock : Clock} {before after : List Record} {command : Command}
  {result : Except (List Cause) Printed}

/-- A command brings no stray leap second in, as it stamps records with the time of a clock. -/
theorem normal (makes : command.Makes clock before result after)
    (normal : ∀ record ∈ before, ∀ t ∈ record.times, t.Normal) :
    ∀ record ∈ after, ∀ t ∈ record.times, t.Normal := by
  have stamp : clock.started.Normal := Timestamp.normal_ofEpochNanos _
  cases makes with
  | fails | reads => exact normal
  | saves path name version description record active named versioned described created updated =>
      rw [List.forall_mem_append, List.forall_mem_singleton, Record.times, created, updated]
      exact ⟨normal, List.forall_mem_singleton.mpr stamp⟩
  | changes command front old new back target same created updated split =>
      subst split
      rw [List.forall_mem_append, List.forall_mem_cons] at normal ⊢
      have first := (List.forall_mem_cons.mp normal.2.1).1
      rw [Record.times, created, updated]
      exact ⟨normal.1, List.forall_mem_cons.mpr ⟨first, List.forall_mem_singleton.mpr stamp⟩,
        normal.2.2⟩

theorem caused (makes : command.Makes clock before result after) {causes : List Cause}
    (failed : result = .error causes) : causes ≠ [] := by
  cases makes with
  | fails command causes caused =>
      cases failed
      exact caused
  | reads | saves | changes => cases failed

end Makes

end Command

/-! ## Requests of a local engine -/

/-- Whether a request leaves the records of an engine alone. -/
def Request.keeps : Request → Bool
  | .list | .get _ | .execute .. | .runs => true
  | _ => false

namespace LocalEngine

variable {engine next : LocalEngine} {clock : Clock} {request : Request} {reply : Reply}

theorem Serves.definitions_eq (serves : engine.Serves clock request (.ok reply) next)
    (keeps : request.keeps = true) : next.definitions = engine.definitions := by
  cases serves with
  | lists | shows | executes | showsRuns => rfl
  | creates => cases keeps
  | edits request edit before old after edits => cases request <;> cases edits <;> cases keeps

/-- A record that is answered has the number that was asked for. -/
theorem Serves.of_get {id : Int64} (serves : engine.Serves clock (.get id) (.ok reply) next) :
    ∃ record : Record, record.id = id ∧ reply = .definition record ∧ next = engine := by
  cases serves with
  | shows record => exact ⟨record, rfl, rfl, rfl⟩
  | edits request edit before old after edits => cases edits

/-- A new record is put at the end, under the next number. -/
theorem Serves.of_create {creation : Creation}
    (serves : engine.Serves clock (.create creation) (.ok reply) next) :
    reply = .definition (engine.created clock creation) ∧
      next = engine.append (engine.created clock creation) := by
  cases serves with
  | creates => exact ⟨rfl, rfl⟩
  | edits request edit before old after edits => cases edits

/-- The first record with a number is changed where it stands. -/
theorem Serves.of_edit {id : Int64} {edit : Record → Record}
    (serves : engine.Serves clock request (.ok reply) next)
    (edits : request.edit? = some (id, edit)) :
    ∃ front old new back, old.id = id ∧ new.id = id ∧ new.createdAt = old.createdAt ∧
      new.updatedAt = some clock.started ∧ reply = .definition new ∧
      engine.definitions = front ++ old :: back ∧ (∀ other ∈ front, other.id ≠ old.id) ∧
      next.definitions = front ++ new :: back := by
  cases serves with
  | lists | shows | creates | executes | showsRuns => cases edits
  | edits request other front old back asked split earlier =>
      cases asked.symm.trans edits
      exact ⟨front, old, (edit old).stamped clock, back, rfl, Request.edit?_id asked old,
        Request.edit?_createdAt asked old, rfl, rfl, split, earlier, rfl⟩

end LocalEngine

/-! ## Calls of a command -/

namespace World

variable {world : World} {store : Store} {engine : LocalEngine} {call : Call}

/-- What a call comes to that a command makes to a store over a local engine. -/
inductive Calls (world : World) (store : Store) (engine : LocalEngine) (call : Call) :
    Except (List Cause) Reply × Client Engine → Prop
  | fails (causes : List Cause) (store' : Store) : causes ≠ [] →
      Calls world store engine call (.error causes, ⟨store', .offline engine⟩)
  | answers (request : Request) (reply : Reply) (engine' : LocalEngine) (store' : Store) :
      store.requestOf call = .ok request → engine.Serves world.clock request (.ok reply) engine' →
      store'.snapshot = store.snapshot.absorb request reply →
      store'.replica.marks.UpTo store'.epoch →
      Calls world store engine call (.ok reply, ⟨store', .offline engine'⟩)

/-- A command that calls a local engine makes a local call. -/
theorem call_offline (world : World) (store : Store) (engine : LocalEngine) (call : Call) :
    world.call ⟨store, .offline engine⟩ call =
      let made := Client.callLocal ⟨store, engine⟩ world.clock call
      let result := match made.2.2 with
        | .ok (.reply reply) => .ok reply
        | .ok (.graph _) => .ok .executed
        | .error error => .error (Cause.ofCallError error)
      (result, ⟨made.1.store, .offline made.1.engine⟩) := by
  rw [World.call, Client.callLocal, Client.call, Client.call]
  cases started : (store.start call).result with
  | error error => rfl
  | ok flight =>
      dsimp only [Engine.serve]
      generalize (store.start call).store.settle flight _ = settled
      obtain ⟨settled, reports, result⟩ := settled
      cases result with
      | error error => rfl
      | ok result => cases result <;> rfl

/-- No call but that to open a graph fails once it is answered. -/
theorem calls_of_plain (plain : ∀ reply, (Store.finish call reply).2 = .ok (.reply reply))
    (upTo : store.replica.marks.UpTo store.epoch) :
    world.Calls store engine call (world.call ⟨store, .offline engine⟩ call) := by
  rw [call_offline]
  cases sent : store.requestOf call with
  | error error =>
      rw [Client.callLocal, Client.call, Store.start, sent]
      exact .fails _ _ (Cause.ofCallError_ne_nil _)
  | ok request =>
      cases served : engine.respond world.clock request with
      | error failure =>
          rw [Client.callLocal, Client.call, Store.start, sent]
          dsimp only
          rw [LocalEngine.serve, served]
          exact .fails _ _ (Cause.ofCallError_ne_nil _)
      | ok answer =>
          obtain ⟨reply, engine'⟩ := answer
          have current : Client.Current ⟨store, engine⟩ := upTo
          have answered := current.answered sent served
          simp only [answered.result, answered.engine, plain]
          exact .answers request reply engine' _ sent (LocalEngine.serves_of_respond served)
            answered.snapshot answered.current

/-! ## One command -/

/-- The store that a command starts with: nothing cached, nothing open. -/
def emptyStore : Store :=
  .empty .lastWriteWins .insertion

theorem calls_request (world : World) (engine : LocalEngine) (request : Request) :
    world.Calls emptyStore engine (.request request)
      (world.call ⟨emptyStore, .offline engine⟩ (.request request)) :=
  calls_of_plain (fun _ => rfl) (Watermarks.upTo_zero 0)

/-- A command that is one request and leaves the records alone. -/
theorem Calls.reads {before : List Record} {command : Command} {request : Request}
    {outcome : Except (List Cause) Reply × Client Engine}
    (calls : world.Calls emptyStore (.ofRecords before) (.request request) outcome)
    (keeps : request.keeps = true) (reads : command.reads = true) (print : Reply → Printed) :
    ∃ engine, outcome.2.engine = .offline engine ∧
      command.Makes world.clock before (outcome.1.map print) engine.definitions := by
  cases calls with
  | fails causes store' caused => exact ⟨_, rfl, .fails _ _ caused⟩
  | answers request' reply engine' store' sent serves =>
      cases sent
      refine ⟨engine', rfl, ?_⟩
      rw [serves.definitions_eq keeps]
      exact .reads _ _ reads

/-- A command whose last call changes a record. -/
theorem Calls.changes {before : List Record} {command : Command} {id : Int64}
    {outcome : Except (List Cause) Reply × Client Engine}
    (calls : world.Calls store (.ofRecords before) call outcome)
    (edits : ∀ request, store.requestOf call = .ok request →
      ∃ edit, request.edit? = some (id, edit))
    (target : command.target? = some id) :
    ∃ engine, outcome.2.engine = .offline engine ∧
      command.Makes world.clock before (outcome.1.map Reply.printed) engine.definitions := by
  cases calls with
  | fails causes store' caused => exact ⟨_, rfl, .fails _ _ caused⟩
  | answers request reply engine' store' sent serves =>
      obtain ⟨edit, asked⟩ := edits request sent
      obtain ⟨front, old, new, back, rfl, same, created, updated, rfl, split, earlier, changed⟩ :=
        serves.of_edit asked
      refine ⟨engine', rfl, ?_⟩
      rw [changed]
      exact .changes _ front old new back target same created updated split earlier

/-- A command leaves a local engine behind that holds what the command makes of the records. -/
theorem serve_makes (world : World) (before : List Record) {command : Command}
    (engages : command.engages = true) :
    ∃ engine,
      (world.serve ⟨emptyStore, .offline (.ofRecords before)⟩ command).2.engine =
        .offline engine ∧
      command.Makes world.clock before
        (world.serve ⟨emptyStore, .offline (.ofRecords before)⟩ command).1
        engine.definitions := by
  cases command with
  | describe tag => cases engages
  | compile path name version order => cases engages
  | load path => cases engages
  | list => exact (world.calls_request _ .list).reads rfl rfl Reply.printed
  | «show» id => exact (world.calls_request _ (.get id)).reads rfl rfl Reply.printed
  | runs => exact (world.calls_request _ .runs).reads rfl rfl Reply.printed
  | execute name =>
      rw [serve]
      cases typed : world.context with
      | error causes => exact ⟨_, rfl, .fails _ _ (ne_nil_of_context typed)⟩
      | ok context => exact (world.calls_request _ (.execute name context)).reads rfl rfl _
  | status id status =>
      refine (world.calls_request _ (.setStatus id status)).changes ?_ rfl
      rintro request ⟨⟩
      exact ⟨_, rfl⟩
  | save path name version description =>
      rw [serve]
      cases found : world.graph path with
      | error causes => exact ⟨_, rfl, .fails _ _ (ne_nil_of_graph found)⟩
      | ok graph =>
          have calls : world.Calls emptyStore (.ofRecords before)
              (.saveGraph graph name version description)
              (world.call ⟨emptyStore, .offline (.ofRecords before)⟩
                (.saveGraph graph name version description)) :=
            calls_of_plain (fun _ => rfl) (Watermarks.upTo_zero 0)
          dsimp only
          generalize world.call _ _ = outcome at calls
          cases calls with
          | fails causes store' caused => exact ⟨_, rfl, .fails _ _ caused⟩
          | answers request reply engine' store' sent serves =>
              obtain ⟨text, -, rfl⟩ := Except.map_eq_ok_iff.mp sent
              obtain ⟨rfl, rfl⟩ := serves.of_create
              exact ⟨_, rfl, .saves _ _ _ _ _ rfl rfl rfl rfl rfl rfl rfl⟩
  | update id path name version description =>
      rw [serve]
      cases found : world.graph path with
      | error causes => exact ⟨_, rfl, .fails _ _ (ne_nil_of_graph found)⟩
      | ok graph =>
          have opens := world.calls_request (.ofRecords before) (.get id)
          dsimp only
          generalize world.call _ (.request (.get id)) = opened at opens
          cases opens with
          | fails causes store' caused => exact ⟨_, rfl, .fails _ _ caused⟩
          | answers request reply engine' store' sent serves shown upTo =>
              cases sent
              obtain ⟨record, rfl, rfl, rfl⟩ := serves.of_get
              have isOpen : store'.current = some record := congrArg Snapshot.current shown
              refine (calls_of_plain (fun _ => rfl) upTo).changes ?_ rfl
              intro request sent
              obtain ⟨text, -, rfl⟩ := Except.map_eq_ok_iff.mp sent
              exact ⟨_, by rw [Store.saveRequest, isOpen]; rfl⟩

end World

end Workflow
