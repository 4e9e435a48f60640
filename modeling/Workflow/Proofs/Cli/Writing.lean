import Workflow.Proofs.Cli.Offline

/-!
# Writing the offline file

The engine of a command that finds records in the offline file is written back to it once the
command has come to a result. That may fail: the directory for the file cannot be made, or the
text cannot be written to its end. The program fails then, whatever the command has come to and
printed, and says what kept it from writing.

A file that is not written is as it was. One that is written in part holds the front of a list of
records, which is not the text of any list, so nothing is taken for the state of the engine that
the engine was not left in.
-/

namespace Workflow

/-- What may be in a file after the writing of a text to it. -/
inductive Writing.Leaves (text : String) (before : FileContent) : Writing → FileContent → Prop
  | done : Leaves text before .done (.text text)
  | noDirectory (words : String) : Leaves text before (.noDirectory words) before
  /-- Where the way to a file has not been there, it may be made in part and then lead nowhere. -/
  | noWay (words : String) : before = .missing →
      Leaves text before (.noDirectory words) .unreadable
  | notOpened (words : String) : Leaves text before (.failed words) before
  | cut (words front back : String) : text = front ++ back → back ≠ "" →
      Leaves text before (.failed words) (.text front)
  /-- What is cut within a character is no text. -/
  | cutCharacter (words : String) : Leaves text before (.failed words) .unreadable

/-- What is in a file after it was to hold some records: those, or what was there before, or
nothing that is read as records. -/
theorem Writing.Leaves.records? {writing : Writing} {records : List Record}
    {before after : FileContent}
    (leaves : writing.Leaves (Record.listToJson records).pretty before after)
    (normal : ∀ record ∈ records, ∀ t ∈ record.times, t.Normal) :
    (writing = .done → after.records? = some records) ∧
      (writing ≠ .done → after = before ∨ after.records? = none) := by
  cases leaves with
  | done =>
      exact ⟨fun _ => Record.listOfText?_pretty normal, fun unfinished => absurd rfl unfinished⟩
  | noDirectory words | notOpened words => exact ⟨nofun, fun _ => .inl rfl⟩
  | noWay words absent => exact ⟨nofun, fun _ => .inr rfl⟩
  | cut words front back split rest =>
      exact ⟨nofun, fun _ => .inr (Record.listOfText?_of_cut split rest)⟩
  | cutCharacter words => exact ⟨nofun, fun _ => .inr rfl⟩

theorem Cause.ofWriting_eq_nil_iff {path : String} {writing : Writing} :
    ofWriting path writing = [] ↔ writing = .done := by
  cases writing <;> simp [ofWriting]

namespace Outcome

variable {outcome : Outcome} {writing : Writing} {path : String}

/-- What may be in a file after a command, if what the command leaves behind was written in a
certain way. -/
def Leaves (outcome : Outcome) (writing : Writing) (path : String)
    (before after : FileContent) : Prop :=
  match outcome.written with
  | some (written, text) =>
    if written = path then writing.Leaves text before after else after = before
  | none => after = before

theorem leaves_iff_of_written {text : String} (written : outcome.written = some (path, text))
    {before after : FileContent} :
    outcome.Leaves writing path before after ↔ writing.Leaves text before after := by
  rw [Leaves, written]
  exact iff_of_eq (if_pos rfl)

/-- A command that writes nothing leaves every file as it was. -/
theorem Leaves.eq_of_unwritten {before after : FileContent}
    (leaves : outcome.Leaves writing path before after) (unwritten : outcome.written = none) :
    after = before := by
  rwa [Leaves, unwritten] at leaves

/-! ## Failures -/

theorem exitCode_eq_zero_iff : outcome.exitCode writing = 0 ↔ outcome.causes writing = [] := by
  simp [exitCode]

theorem exitCode_eq_one_iff : outcome.exitCode writing = 1 ↔ outcome.causes writing ≠ [] := by
  simp [exitCode]

/-- The program fails for what it could not write or for what the command failed for. -/
theorem causes_eq_nil_iff : outcome.causes writing = [] ↔
    outcome.unwritten writing = [] ∧ ∀ causes, outcome.result = .error causes → causes = [] := by
  rw [causes]
  cases outcome.unwritten writing with
  | nil => cases outcome.result <;> simp
  | cons cause others => simp

theorem exitCode_of_error {causes : List Cause} (failed : outcome.result = .error causes)
    (caused : causes ≠ []) : outcome.exitCode writing = 1 :=
  exitCode_eq_one_iff.mpr fun none => caused ((causes_eq_nil_iff.mp none).2 causes failed)

/-- What could not be written outweighs what the command came to. -/
theorem causes_of_unfinished {text : String} (written : outcome.written = some (path, text))
    (unfinished : writing ≠ .done) : outcome.causes writing = Cause.ofWriting path writing := by
  have caused : Cause.ofWriting path writing ≠ [] := mt Cause.ofWriting_eq_nil_iff.mp unfinished
  rw [causes, unwritten, written]
  cases reasons : Cause.ofWriting path writing with
  | nil => exact absurd reasons caused
  | cons cause others => simp [reasons]

theorem exitCode_of_unfinished {text : String} (written : outcome.written = some (path, text))
    (unfinished : writing ≠ .done) : outcome.exitCode writing = 1 := by
  rw [exitCode_eq_one_iff, causes_of_unfinished written unfinished]
  exact mt Cause.ofWriting_eq_nil_iff.mp unfinished

/-- Where nothing fails to be written, the program succeeds when the command does. -/
theorem exitCode_done (caused : ∀ causes, outcome.result = .error causes → causes ≠ []) :
    outcome.exitCode .done = 0 ↔ ∃ printed, outcome.result = .ok printed := by
  have unwritten : outcome.unwritten .done = [] := by
    rw [Outcome.unwritten]
    split <;> rfl
  rw [exitCode_eq_zero_iff, causes_eq_nil_iff]
  cases result : outcome.result with
  | error causes => simpa using fun _ => caused causes result
  | ok printed => simpa using unwritten

end Outcome

/-! ## One command -/

namespace World

variable {world : World} {settings : Settings} {command : Command} {directory : String}

theorem run_engaged (located : world.dataDirectory settings = .ok directory)
    (engages : command.engages = true) :
    world.run ⟨settings, some command⟩ = world.runWithEngine directory settings command := by
  rw [run, located]
  cases command with
  | describe | compile | load => cases engages
  | _ => rfl

/-- A command for the local engine fails without a trace if the file makes no sense. -/
theorem run_of_no_records (offline : settings.offline = true)
    (located : world.dataDirectory settings = .ok directory) (engages : command.engages = true)
    (held : (world.file (inDirectory directory offlineFile)).records? = none) :
    ∃ causes, causes ≠ [] ∧ world.run ⟨settings, some command⟩ = ⟨.error causes, none⟩ := by
  obtain ⟨causes, caused, refused⟩ := offlineEngine_of_no_records held
  refine ⟨causes, caused, ?_⟩
  rw [run_engaged located engages, runWithEngine, engine, if_pos offline, refused]
  rfl

/-- A command for the local engine is served from the records in the file, and what the engine
then holds is written back. -/
theorem run_of_records (offline : settings.offline = true)
    (located : world.dataDirectory settings = .ok directory) (engages : command.engages = true)
    {before : List Record}
    (held : (world.file (inDirectory directory offlineFile)).records? = some before) :
    let served := world.serve ⟨emptyStore, .offline (.ofRecords before)⟩ command
    world.run ⟨settings, some command⟩ =
      ⟨served.1, served.2.engine.kept.map (inDirectory directory offlineFile, ·)⟩ := by
  rw [run_engaged located engages, runWithEngine, engine, if_pos offline,
    offlineEngine_of_records held]
  rfl

/-- What a command comes to that finds records in the offline file, and what it writes back. -/
structure WritesBack (world : World) (settings : Settings) (command : Command) (path : String)
    (before : List Record) (engine : LocalEngine) : Prop where
  served : (world.serve ⟨emptyStore, .offline (.ofRecords before)⟩ command).2.engine =
    .offline engine
  result : (world.run ⟨settings, some command⟩).result =
    (world.serve ⟨emptyStore, .offline (.ofRecords before)⟩ command).1
  written : (world.run ⟨settings, some command⟩).written =
    some (path, (Record.listToJson engine.definitions).pretty)
  normal : ∀ record ∈ engine.definitions, ∀ t ∈ record.times, t.Normal
  makes : command.Makes world.clock before (world.run ⟨settings, some command⟩).result
    engine.definitions

theorem exists_writesBack (offline : settings.offline = true)
    (located : world.dataDirectory settings = .ok directory) (engages : command.engages = true)
    {before : List Record}
    (held : (world.file (inDirectory directory offlineFile)).records? = some before) :
    ∃ engine,
      world.WritesBack settings command (inDirectory directory offlineFile) before engine := by
  obtain ⟨engine, served, makes⟩ := world.serve_makes before engages
  have ran := run_of_records offline located engages held
  refine ⟨engine, served, by rw [ran], ?_, makes.normal (FileContent.normal_of_records? held),
    by rwa [ran]⟩
  rw [ran, served]
  rfl

namespace WritesBack

variable {path : String} {before : List Record} {engine : LocalEngine} {writing : Writing}

/-- Where the file is written, the program succeeds when the command does. -/
theorem exitCode_done (wrote : world.WritesBack settings command path before engine) :
    (world.run ⟨settings, some command⟩).exitCode .done = 0 ↔
      ∃ printed, (world.run ⟨settings, some command⟩).result = .ok printed :=
  Outcome.exitCode_done fun _ failed => wrote.makes.caused failed

/-- A file that is written holds what the engine holds in the end. -/
theorem records? (wrote : world.WritesBack settings command path before engine)
    {content after : FileContent}
    (leaves : (world.run ⟨settings, some command⟩).Leaves writing path content after) :
    (writing = .done → after.records? = some engine.definitions) ∧
      (writing ≠ .done → after = content ∨ after.records? = none) :=
  ((Outcome.leaves_iff_of_written wrote.written).mp leaves).records? wrote.normal

end WritesBack

/-- Nothing is written without an engine. -/
theorem written_eq_none (located : world.dataDirectory settings = .ok directory)
    {command : Option Command} (idle : command.any Command.engages = false) :
    (world.run ⟨settings, command⟩).written = none := by
  rw [run, located]
  cases command with
  | none => rfl
  | some command =>
      cases command with
      | describe | compile | load => rfl
      | _ => cases idle

end World

end Workflow
