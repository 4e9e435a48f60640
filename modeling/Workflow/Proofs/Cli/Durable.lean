import Workflow.Remote.Unreachable
import Workflow.Proofs.Cli.Writing

/-!
# The offline file over many commands

Between commands nothing is left of the local engine but its file. What a command reads back is
what the one before held in the end, so no change is lost and none is made by a command that
fails. The numbers of new records are counted on from what the file holds; since no record is
ever removed, that is as good as a counter that is kept.

All this stands on the file being written. Where it cannot be, the program fails and the file is as
it was, or it holds nothing that is read as records, and then no further command touches it.
-/

namespace Workflow

/-! ## The number of a new record -/

/-- The number of the record that an output describes. -/
def Record.idOfOutput? (output : String) : Option Int64 :=
  ((ParseTree.read output).bind Record.ofTree?).map Record.id

/-- The number that a command reports as that of a new record when it comes to a result: that of
what is saved, if it is. -/
def Command.reported? : Command → Except (List Cause) Printed → Option Int64
  | .save .., .ok printed => Record.idOfOutput? printed.output
  | _, _ => none

/-- The numbers that a command line gives to new records: the one that its command reports, if the
program succeeds. -/
def Invocation.assigned (invocation : Invocation) (outcome : Outcome) (writing : Writing) :
    List Int64 :=
  if outcome.exitCode writing = 0 then
    (invocation.command.bind fun command => command.reported? outcome.result).toList
  else []

/-- What is printed is read like the text without the line's end. -/
theorem Json.Legible.read_printed {value : Json} (legible : value.Legible) :
    ParseTree.read value.printed = some (ParseTree.ofJson value) := by
  have reads : Layout.indented.ReadsBack value := Layout.readsBack_of_legible legible
  have text : value.printed.toList = Layout.indented.spell 0 value ++ ['\n'] := by
    rw [printed, String.toList_append, pretty, String.toList_ofList, ← Layout.spell_indented]
    rfl
  have first := reads 0 (2 * value.printed.length + 2) ['\n']
    (by rw [← String.length_toList, text, List.length_append]; omega)
    (by rintro _ ⟨⟩; decide)
  rw [ParseTree.read, ParseTree.readFirst, text, first]
  rfl

theorem Record.idOfOutput?_printed (record : Record) :
    Record.idOfOutput? record.toJson.printed = some record.id := by
  rw [Record.idOfOutput?, record.legible.read_printed, Option.bind_some, record.ofTree?_ofJson]
  rfl

/-- The greatest of some numbers, from which an engine counts on; zero if there are none. -/
def greatestId (ids : List Int64) : Int64 :=
  Int64.ofInt ((ids.map Int64.toInt).max?.getD 0)

theorem LocalEngine.lastDefinitionId_ofRecords (records : List Record) :
    (LocalEngine.ofRecords records).lastDefinitionId = greatestId (records.map Record.id) := by
  rw [greatestId, List.map_map]
  rfl

/-- The next number is that of no record, as long as there is one left. -/
theorem greatestId_succ_notMem {records : List Record}
    (distinct : (records.map Record.id).Nodup)
    (room : (greatestId (records.map Record.id)).toInt < Int64.maxValue.toInt) :
    greatestId (records.map Record.id) + 1 ∉ records.map Record.id := by
  rw [← LocalEngine.lastDefinitionId_ofRecords] at room ⊢
  intro listed
  obtain ⟨record, member, same⟩ := List.mem_map.mp listed
  exact (LocalEngine.numbered_ofRecords distinct).id_ne_succ room record member same

/-- The next number is the greatest when it has been given. -/
theorem greatestId_append {records : List Record} (distinct : (records.map Record.id).Nodup)
    (room : (greatestId (records.map Record.id)).toInt < Int64.maxValue.toInt) :
    greatestId (records.map Record.id ++ [greatestId (records.map Record.id) + 1]) =
      greatestId (records.map Record.id) + 1 := by
  have below : ∀ id ∈ records.map Record.id,
      id.toInt ≤ (greatestId (records.map Record.id)).toInt := by
    simp only [List.forall_mem_map, ← LocalEngine.lastDefinitionId_ofRecords]
    exact (LocalEngine.numbered_ofRecords distinct).id_le
  generalize greatestId (records.map Record.id) = last at *
  have next := LocalEngine.toInt_succ room
  have highest : ((records.map Record.id ++ [last + 1]).map Int64.toInt).max? =
      some (last + 1).toInt := by
    rw [List.max?_eq_some_iff, List.map_append, List.forall_mem_append, List.forall_mem_map,
      List.map_singleton, List.forall_mem_singleton, next]
    refine ⟨List.mem_append_right _ (List.mem_singleton.mpr rfl), ?_, Int.le_refl _⟩
    intro id member
    exact Int.le_add_one (below id member)
  rw [greatestId, highest, Option.getD_some, Int64.ofInt_toInt]

namespace Command

variable {clock : Clock} {before after : List Record} {command : Command}
  {result : Except (List Cause) Printed}

/-- A command that has saved a record reports the next number. -/
theorem Makes.reported?_of_save {path name version : String} {description : Option String}
    {printed : Printed}
    (makes : (save path name version description).Makes clock before (.ok printed) after) :
    (save path name version description).reported? (.ok printed) =
      some (greatestId (before.map Record.id) + 1) := by
  cases makes with
  | reads command printed reads => cases reads
  | changes command front old new back target => cases target
  | saves path name version description record active named versioned described created updated
      number =>
      rw [LocalEngine.lastDefinitionId_ofRecords] at number
      rw [reported?, record.idOfOutput?_printed, number]

/-- The numbers of the records after a command are those before it and the one that it reports,
which is the next. -/
theorem Makes.map_id (makes : command.Makes clock before result after) :
    after.map Record.id = before.map Record.id ++ (command.reported? result).toList ∧
      ∀ id ∈ command.reported? result, id = greatestId (before.map Record.id) + 1 := by
  have kept (unreported : command.reported? result = none)
      (same : after.map Record.id = before.map Record.id) :
      after.map Record.id = before.map Record.id ++ (command.reported? result).toList ∧
        ∀ id ∈ command.reported? result, id = greatestId (before.map Record.id) + 1 := by
    rw [unreported, same]
    exact ⟨(List.append_nil _).symm, nofun⟩
  cases makes with
  | fails command causes =>
      refine kept ?_ rfl
      cases command <;> rfl
  | reads command printed reads =>
      refine kept ?_ rfl
      cases command with
      | save => cases reads
      | _ => rfl
  | saves path name version description record active named versioned described created updated
      number =>
      have reported := Makes.reported?_of_save (.saves path name version description record active
        named versioned described created updated number)
      rw [LocalEngine.lastDefinitionId_ofRecords] at number
      rw [reported, List.map_append, List.map_singleton, number]
      exact ⟨rfl, fun id member => (Option.mem_some_iff.mp member).symm⟩
  | changes command front old new back target same created updated split earlier =>
      refine kept ?_ (by simp [split, same])
      cases command with
      | save => cases target
      | _ => rfl

/-- A command that fails reports nothing. -/
theorem reported?_error (command : Command) (causes : List Cause) :
    command.reported? (.error causes) = none := by
  cases command <;> rfl

/-- Nor does one without an engine. -/
theorem reported?_of_idle (idle : command.engages = false) : command.reported? result = none := by
  cases command with
  | describe | compile | load => rfl
  | _ => cases idle

end Command

/-! ## Commands one after another -/

/-- The world with something else in a file. -/
def World.holding (world : World) (path : String) (content : FileContent) : World :=
  { world with file := fun other => if other = path then content else world.file other }

@[simp] theorem World.file_holding (world : World) (path : String) (content : FileContent) :
    (world.holding path content).file path = content :=
  if_pos rfl

/-- A command line in a world of its own, and how the file that it leaves behind is written. -/
structure Line where
  world : World
  invocation : Invocation
  writing : Writing

namespace Line

/-- What comes of a command line if something is in a file. -/
def outcome (line : Line) (path : String) (content : FileContent) : Outcome :=
  (line.world.holding path content).run line.invocation

/-- The numbers that a command line gives to new records if something is in a file. -/
def assigned (line : Line) (path : String) (content : FileContent) : List Int64 :=
  line.invocation.assigned (line.outcome path content) line.writing

/-- Whether a command line is for the local engine of a directory. -/
def IsOffline (line : Line) (directory : String) : Prop :=
  line.invocation.settings.offline = true ∧
    line.world.dataDirectory line.invocation.settings = .ok directory

end Line

/-- Command lines are carried out one after another, each in a world of its own but for a file.
Between what is in the file at first and at last stand the numbers given to new records. -/
inductive RunsLines (path : String) :
    FileContent → List Line → List Int64 → FileContent → Prop
  | nil (content : FileContent) : RunsLines path content [] [] content
  | cons {line : Line} {content middle last : FileContent} {rest : List Line}
      {numbers : List Int64} :
      (line.outcome path content).Leaves line.writing path content middle →
      RunsLines path middle rest numbers last →
      RunsLines path content (line :: rest) (line.assigned path content ++ numbers) last

namespace World.WritesBack

variable {world : World} {settings : Settings} {command : Command} {path : String}
  {before : List Record} {engine : LocalEngine} {writing : Writing}

/-- A command whose file is written gives the number that it reports. -/
theorem assigned_done (wrote : world.WritesBack settings command path before engine) :
    Invocation.assigned ⟨settings, some command⟩ (world.run ⟨settings, some command⟩) .done =
      (command.reported? (world.run ⟨settings, some command⟩).result).toList := by
  rw [Invocation.assigned, Option.bind_some]
  split
  · rfl
  · rename_i failed
    cases result : (world.run ⟨settings, some command⟩).result with
    | ok printed => exact absurd (wrote.exitCode_done.mpr ⟨printed, result⟩) failed
    | error causes => rw [Command.reported?_error, Option.toList_none]

/-- A command whose file is not written gives none, whatever it has reported. -/
theorem assigned_unfinished (wrote : world.WritesBack settings command path before engine)
    (unfinished : writing ≠ .done) :
    Invocation.assigned ⟨settings, some command⟩ (world.run ⟨settings, some command⟩) writing =
      [] := by
  rw [Invocation.assigned, Outcome.exitCode_of_unfinished wrote.written unfinished]
  rfl

end World.WritesBack

namespace Line

variable {line : Line} {directory : String} {content after : FileContent}

/-- A command line without a command that needs an engine changes nothing. -/
theorem idle (offline : line.IsOffline directory) {path : String}
    (idle : line.invocation.command.any Command.engages = false)
    (leaves : (line.outcome path content).Leaves line.writing path content after) :
    after = content ∧ line.assigned path content = [] := by
  obtain ⟨world, ⟨settings, command⟩, writing⟩ := line
  have placed : (world.holding path content).dataDirectory settings = .ok directory := offline.2
  refine ⟨leaves.eq_of_unwritten (World.written_eq_none placed idle), ?_⟩
  rw [assigned, Invocation.assigned]
  cases command with
  | none => exact ite_self _
  | some command =>
      rw [Option.bind_some, Command.reported?_of_idle idle]
      exact ite_self _

/-- Nor does one for an engine whose file makes no sense. -/
theorem refused (offline : line.IsOffline directory) (held : content.records? = none)
    (leaves : (line.outcome (inDirectory directory offlineFile) content).Leaves line.writing
      (inDirectory directory offlineFile) content after) :
    after = content ∧ line.assigned (inDirectory directory offlineFile) content = [] := by
  cases engages : line.invocation.command.any Command.engages with
  | false => exact line.idle offline engages leaves
  | true =>
      obtain ⟨world, ⟨settings, command⟩, writing⟩ := line
      obtain ⟨command, rfl, needed⟩ := (Option.any_eq_true _ _).mp engages
      have placed : (world.holding (inDirectory directory offlineFile) content).dataDirectory
          settings = .ok directory := offline.2
      rw [← world.file_holding (inDirectory directory offlineFile) content] at held
      obtain ⟨causes, caused, ran⟩ := World.run_of_no_records offline.1 placed needed held
      have ran : Line.outcome ⟨world, ⟨settings, some command⟩, writing⟩
          (inDirectory directory offlineFile) content = ⟨.error causes, none⟩ := ran
      refine ⟨leaves.eq_of_unwritten (congrArg Outcome.written ran), ?_⟩
      rw [assigned, Invocation.assigned, ran, Outcome.exitCode_of_error rfl caused]
      rfl

/-- A command line adds the number that it gives to those in the file, if it leaves records there
at all. -/
theorem map_id (offline : line.IsOffline directory) {before : List Record}
    (held : content.records? = some before)
    (leaves : (line.outcome (inDirectory directory offlineFile) content).Leaves line.writing
      (inDirectory directory offlineFile) content after) :
    let assigned := line.assigned (inDirectory directory offlineFile) content
    (after.records? = none ∧ assigned = []) ∨
      ∃ records, after.records? = some records ∧
        records.map Record.id = before.map Record.id ++ assigned ∧
        (assigned = [] ∨ assigned = [greatestId (before.map Record.id) + 1]) := by
  intro assigned
  have unchanged (same : after = content) (none : assigned = []) : ∃ records,
      after.records? = some records ∧
        records.map Record.id = before.map Record.id ++ assigned ∧
        (assigned = [] ∨ assigned = [greatestId (before.map Record.id) + 1]) := by
    refine ⟨before, same ▸ held, ?_, .inl none⟩
    rw [none, List.append_nil]
  cases engages : line.invocation.command.any Command.engages with
  | false =>
      obtain ⟨same, none⟩ := line.idle offline engages leaves
      exact .inr (unchanged same none)
  | true =>
      obtain ⟨world, ⟨settings, command⟩, writing⟩ := line
      obtain ⟨command, rfl, needed⟩ := (Option.any_eq_true _ _).mp engages
      have placed : (world.holding (inDirectory directory offlineFile) content).dataDirectory
          settings = .ok directory := offline.2
      rw [← world.file_holding (inDirectory directory offlineFile) content] at held
      obtain ⟨engine, wrote⟩ := World.exists_writesBack offline.1 placed needed held
      obtain ⟨kept, lost⟩ := wrote.records? leaves
      by_cases finished : writing = .done
      · subst finished
        have given : assigned = _ := wrote.assigned_done
        obtain ⟨ids, next⟩ := wrote.makes.map_id
        rw [← given] at ids
        refine .inr ⟨engine.definitions, kept rfl, ids, ?_⟩
        rw [given]
        cases reported : Command.reported? _ _ with
        | none => exact .inl rfl
        | some id => exact .inr (congrArg (fun id => [id]) (next id reported))
      · have none : assigned = [] := wrote.assigned_unfinished finished
        rcases lost finished with same | unread
        · exact .inr (unchanged same none)
        · exact .inl ⟨unread, none⟩

end Line

namespace RunsLines

variable {directory : String} {content last : FileContent} {lines : List Line}
  {numbers : List Int64}

/-- A file that makes no sense stays as it is, and no numbers are given. -/
theorem refused
    (runs : RunsLines (inDirectory directory offlineFile) content lines numbers last)
    (offline : ∀ line ∈ lines, line.IsOffline directory) (held : content.records? = none) :
    numbers = [] ∧ last = content := by
  induction runs with
  | nil => exact ⟨rfl, rfl⟩
  | cons leaves rest ih =>
      obtain ⟨here, others⟩ := List.forall_mem_cons.mp offline
      obtain ⟨rfl, none⟩ := Line.refused here held leaves
      rw [none]
      exact ih others held

/-- No number is given that is in use already, as long as the numbers last. The file holds the
numbers from before and those that were given, unless it has ceased to make sense. -/
theorem nodup (runs : RunsLines (inDirectory directory offlineFile) content lines numbers last)
    (offline : ∀ line ∈ lines, line.IsOffline directory) {before : List Record}
    (held : content.records? = some before) (distinct : (before.map Record.id).Nodup)
    (room : (greatestId (before.map Record.id)).toInt + numbers.length ≤ Int64.maxValue.toInt) :
    (before.map Record.id ++ numbers).Nodup ∧
      ∀ after, last.records? = some after →
        after.map Record.id = before.map Record.id ++ numbers := by
  induction runs generalizing before with
  | nil =>
      rw [List.append_nil]
      refine ⟨distinct, fun after same => ?_⟩
      cases held.symm.trans same
      rfl
  | @cons line content middle last rest numbers leaves runs ih =>
      obtain ⟨here, others⟩ := List.forall_mem_cons.mp offline
      have step := line.map_id here held leaves
      dsimp only at step
      generalize line.assigned _ content = assigned at room step ⊢
      rcases step with ⟨unread, rfl⟩ | ⟨records, kept, grown, rfl | rfl⟩
      · obtain ⟨rfl, rfl⟩ := runs.refused others unread
        refine ⟨by rwa [List.append_nil, List.append_nil], fun after same => ?_⟩
        rw [unread] at same
        cases same
      · rw [List.append_nil] at grown
        rw [← grown] at distinct room ⊢
        exact ih others kept distinct room
      · rw [List.length_append, List.length_singleton] at room
        have spare : (greatestId (before.map Record.id)).toInt < Int64.maxValue.toInt := by omega
        have fresh : greatestId (before.map Record.id) + 1 ∉ before.map Record.id :=
          greatestId_succ_notMem distinct spare
        have next := greatestId_append distinct spare
        rw [← grown] at next
        have apart : (records.map Record.id).Nodup := by
          rw [grown]
          exact List.nodup_append_comm.mp (List.nodup_cons.mpr ⟨fresh, distinct⟩)
        rw [← List.append_assoc, ← grown]
        refine ih others kept apart ?_
        rw [next, LocalEngine.toInt_succ spare]
        omega

end RunsLines

/-- A world in which a graph with one step can be read. -/
def World.withGraph : World where
  file path :=
    if path = "g.json" then
      .text "\x7b\"steps\":[\x7b\"name\":\"s\",\"type\":\"delay\",\"label\":\"l\"\x7d]\x7d"
    else .missing
  input := .missing
  clock := 0
  home := none
  network := .unreachable

end Workflow
