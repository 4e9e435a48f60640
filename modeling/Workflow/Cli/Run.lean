import Workflow.Text.Blank
import Workflow.Graph.Text
import Workflow.Engine.Text
import Workflow.Cache.Client
import Workflow.Remote.Connection
import Workflow.Remote.Exchange
import Workflow.Cli.Command
import Workflow.Cli.Outcome

/-!
# Carrying out commands

What a command does, given the world around it: the files, what is typed in, the time and the
network. Describing, compiling and loading need no engine. Every other command is a call to a store
or two, over a remote engine or over a local one; the definitions of the local engine are read from
a file before the command and written back after it, whether it succeeds or not.
-/

namespace Workflow

/-- What surrounds the program. -/
structure World where
  file : String → FileContent
  /-- What is typed in; a person at a terminal types nothing. -/
  input : FileContent
  clock : Clock
  home : Option String
  network : Network

/-- Where connection settings are kept. -/
def connectionFile : String :=
  "config.json"

/-- Where the definitions of the local engine are kept. -/
def offlineFile : String :=
  "offline.json"

/-! ## Commands without an engine -/

/-- A value as it is printed. -/
def Json.printed (value : Json) : String :=
  value.pretty ++ "\n"

/-- The graph in a file. -/
def World.graph (world : World) (path : String) : Except (List Cause) Graph := do
  let content ← Cause.ofFile "failed to read graph file" path (world.file path)
  let malformed : Cause := ⟨"failed to parse graph file: " ++ path, none⟩
  match Graph.ofText content with
  | .ok graph => return graph
  | .error .malformed => .error [malformed, .foreign Cause.notOfThisKind]
  | .error (.graph error) => .error [malformed, ⟨error.fileMessage, none⟩]

/-- Describe one kind of step, or all. -/
def describeKinds : Option String → Except (List Cause) Printed
  | none => .ok ⟨(Json.array (StepDescriptor.all.map StepDescriptor.toJson)).printed, []⟩
  | some tag =>
    match StepDescriptor.ofTag? tag with
    | some descriptor => .ok ⟨descriptor.toJson.printed, []⟩
    | none => .error [⟨"unknown step type '" ++ tag ++ "'", none⟩]

/-- Compile the graph in a file. -/
def World.compile (world : World) (path name version : String) (order : StepOrder) :
    Except (List Cause) Printed := do
  let graph ← world.graph path
  match graph.compile order name version with
  | .ok definition =>
    let remark := "Compiled " ++ toString definition.steps.length ++ " steps"
    return ⟨definition.prettyText ++ "\n", [remark]⟩
  | .error error => .error [⟨"failed to compile workflow", none⟩, ⟨error.message, none⟩]

/-- Rebuild the graph of the definition in a file. -/
def World.load (world : World) (path : String) : Except (List Cause) Printed := do
  let content ← Cause.ofFile "failed to read definition file" path (world.file path)
  match Graph.ofDefinitionText content with
  | .ok graph =>
    let remark := "Loaded " ++ toString graph.size ++
      " steps; edges were rebuilt as a linear chain"
    return ⟨graph.toJson.printed, [remark]⟩
  | .error error => .error [⟨"failed to load definition", none⟩, .ofLoadError error]

/-! ## Engines -/

/-- The engine that a command works with. -/
inductive Engine where
  | offline (engine : LocalEngine)
  | remote (engine : RemoteEngine)

namespace Engine

/-- Ask an engine under a clock. -/
def serve (clock : Clock) : Engine → Request → Except EngineError Reply × Engine
  | .offline engine, request =>
    let (answer, engine) := engine.serve clock request
    (answer, .offline engine)
  | .remote engine, request => (engine.serve request, .remote engine)

/-- The definitions of a local engine as they are kept between commands. -/
def kept : Engine → Option String
  | .offline engine => some (Record.listToJson engine.definitions).pretty
  | .remote _ => none

end Engine

/-- The local engine whose definitions are in a file; without the file it has none. -/
def World.offlineEngine (world : World) (path : String) : Except (List Cause) LocalEngine :=
  match world.file path with
  | .missing => .ok .empty
  | content => do
    let text ← Cause.ofFile "failed to read offline state" path content
    match Record.listOfText? text with
    | some records => return .ofRecords records
    | none =>
      .error [⟨"failed to parse offline state: " ++ path, none⟩, .foreign Cause.notOfThisKind]

/-- The remote engine that the connection settings and an address of its own name. -/
def World.remoteEngine (world : World) (path : String) (baseUrl : Option String) :
    Except (List Cause) RemoteEngine :=
  let outer : Cause := ⟨"failed to load gateway config", none⟩
  match Connection.ofFile (world.file path) with
  | .error .unreadable =>
    .error [outer, ⟨"failed to read config " ++ path ++ ": ", some Cause.notReadable⟩,
      .foreign Cause.notReadable]
  | .error .malformed =>
    .error [outer, ⟨"failed to parse config " ++ path ++ ": ", some Cause.notOfThisKind⟩,
      .foreign Cause.notOfThisKind]
  | .ok loaded =>
    let connection := loaded.withBaseUrl baseUrl
    match connection.url with
    | .ok url => .ok ⟨url, world.network⟩
    | .error error =>
      .error [⟨"failed to create gateway", none⟩, ⟨connection.invalidUrlMessage error, none⟩,
        ⟨error.message, none⟩]

/-- The engine that settings name. -/
def World.engine (world : World) (directory : String) (settings : Settings) :
    Except (List Cause) Engine :=
  if settings.offline then
    (world.offlineEngine (inDirectory directory offlineFile)).map .offline
  else
    (world.remoteEngine (inDirectory directory connectionFile) settings.baseUrl).map .remote

/-! ## Commands with an engine -/

/-- What is printed of a reply. -/
def Reply.printed : Reply → Printed
  | .definitions records => ⟨(Record.listToJson records).printed, []⟩
  | .definition record => ⟨record.toJson.printed, []⟩
  | .runs list => ⟨(Run.listToJson list).printed, []⟩
  | .executed => ⟨"", []⟩

/-- Make a call and take its reply. -/
def World.call (world : World) (client : Client Engine) (call : Call) :
    Except (List Cause) Reply × Client Engine :=
  match client.call (Engine.serve world.clock) call with
  | (client, _, .ok (.reply reply)) => (.ok reply, client)
  | (client, _, .ok (.graph _)) => (.ok .executed, client)
  | (client, _, .error error) => (.error (Cause.ofCallError error), client)

/-- The context of an execution: what is typed in, or an empty object for nothing. -/
def World.context (world : World) : Except (List Cause) Json :=
  match world.input with
  | .missing => .ok (.object [])
  | .unreadable =>
    .error [⟨"failed to read context from stdin", none⟩, .foreign Cause.notReadable]
  | .text input =>
    if isBlank input then .ok (.object [])
    else
      match Json.ofText? input with
      | some context => .ok context
      | none =>
        .error [⟨"failed to parse context JSON from stdin", none⟩, .foreign Cause.notOfThisKind]

/-- Carry out a command by calls to a client, which is given back as the calls leave it. -/
def World.serve (world : World) (client : Client Engine) :
    Command → Except (List Cause) Printed × Client Engine
  | .list =>
    let (reply, client) := world.call client (.request .list)
    (reply.map Reply.printed, client)
  | .show id =>
    let (reply, client) := world.call client (.request (.get id))
    (reply.map Reply.printed, client)
  | .runs =>
    let (reply, client) := world.call client (.request .runs)
    (reply.map Reply.printed, client)
  | .status id status =>
    let (reply, client) := world.call client (.request (.setStatus id status))
    (reply.map Reply.printed, client)
  | .save path name version description =>
    match world.graph path with
    | .error causes => (.error causes, client)
    | .ok graph =>
      let (reply, client) := world.call client (.saveGraph graph name version description)
      (reply.map Reply.printed, client)
  | .update id path name version description =>
    match world.graph path with
    | .error causes => (.error causes, client)
    | .ok graph =>
      match world.call client (.request (.get id)) with
      | (.error causes, client) => (.error causes, client)
      | (.ok opened, client) =>
        let kept := match opened with
          | .definition record => record.name
          | _ => ""
        let (reply, client) :=
          world.call client (.saveGraph graph (name.getD kept) version description)
        (reply.map Reply.printed, client)
  | .execute name =>
    match world.context with
    | .error causes => (.error causes, client)
    | .ok context =>
      let (reply, client) := world.call client (.request (.execute name context))
      (reply.map fun _ => ⟨"", ["Executed workflow: " ++ name]⟩, client)
  | .describe _ | .compile .. | .load _ => (.ok ⟨"", []⟩, client)

/-! ## Command lines -/

/-- What is printed when there is no command. -/
def greeting : String :=
  "flowdesk - use --help to see available commands\n"

/-- How the program is used. -/
def usage : String :=
  "Usage: flowdesk [--data-dir DIR] [--base-url URL] [--offline] COMMAND\n\nCommands: " ++
    ", ".intercalate (Command.forms.map Prod.fst)

/-- The program's name and version. -/
def versionText : String :=
  "flowdesk 0.0.1-alpha.0"

/-- The directory in which data is kept. -/
def World.dataDirectory (world : World) (settings : Settings) : Except (List Cause) String :=
  match settings.dataDirectory, world.home with
  | some directory, _ => .ok directory
  | none, some home => .ok (inDirectory home ".flowdesk")
  | none, none => .error [⟨"could not determine home directory", none⟩]

/-- The file that a command names, if it names one. -/
def Command.file? : Command → Option String
  | .compile path .. | .load path | .save path .. | .update _ path .. => some path
  | _ => none

/-- Every file that may be read for what a command line says. -/
def Invocation.files (invocation : Invocation) (directory : String) : List String :=
  (invocation.command.bind Command.file?).toList ++
    [inDirectory directory offlineFile, inDirectory directory connectionFile]

/-- Carry out a command that needs an engine. -/
def World.runWithEngine (world : World) (directory : String) (settings : Settings)
    (command : Command) : Outcome :=
  match world.engine directory settings with
  | .error causes => ⟨.error causes, none⟩
  | .ok engine =>
    let client : Client Engine := ⟨.empty .lastWriteWins .insertion, engine⟩
    let (result, client) := world.serve client command
    ⟨result, client.engine.kept.map fun text => (inDirectory directory offlineFile, text)⟩

/-- Carry out what a command line says. -/
def World.run (world : World) (invocation : Invocation) : Outcome :=
  match world.dataDirectory invocation.settings with
  | .error causes => ⟨.error causes, none⟩
  | .ok directory =>
    match invocation.command with
    | none => ⟨.ok ⟨greeting, []⟩, none⟩
    | some (.describe tag) => ⟨describeKinds tag, none⟩
    | some (.compile path name version order) => ⟨world.compile path name version order, none⟩
    | some (.load path) => ⟨world.load path, none⟩
    | some command => world.runWithEngine directory invocation.settings command

end Workflow
