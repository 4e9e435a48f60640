import Workflow.Cli.Options

/-!
# Commands

What the program can be told on its command line. Three options may stand before or after the
command's name: where the data is kept, where the engine is, and whether a local engine is to be
used; what stands after the name counts.
-/

namespace Workflow

/-- A command with its arguments. -/
inductive Command where
  | describe (tag : Option String)
  | compile (graphFile name version : String) (order : StepOrder)
  | load (definitionFile : String)
  | list
  | show (id : Int64)
  | runs
  | save (graphFile name version : String) (description : Option String)
  /-- Without a name the record keeps its own. -/
  | update (id : Int64) (graphFile : String) (name : Option String) (version : String)
      (description : Option String)
  | execute (name : String)
  | status (id : Int64) (status : Status)
deriving DecidableEq, Repr

/-- What is said of all commands alike. -/
structure Settings where
  dataDirectory : Option String
  baseUrl : Option String
  offline : Bool
deriving DecidableEq, Repr

/-- What a command line says. -/
structure Invocation where
  settings : Settings
  command : Option Command
deriving DecidableEq, Repr

/-- A word that may be missing; if it is there it must have a meaning. -/
def optionalWord {α : Type} (read : String → Option α) : Option String → Option (Option α)
  | none => some none
  | some word => (read word).map some

namespace Command

/-- The version of a definition when none is given. -/
def standardVersion : String :=
  "1.0"

/-- The options with a value that may stand before or after a command's name. -/
def sharedOptions : List (String × WordKind) :=
  [("data-dir", .file), ("base-url", .text)]

/-- The names of the commands with the options and the places of each. -/
def forms : List (String × List (String × WordKind) × List WordKind) :=
  let named := [("name", WordKind.text), ("version", .text)]
  let described := named ++ [("description", .text)]
  [("describe", [], [.text]), ("compile", named ++ [("order", .order)], [.file]),
    ("load", [], [.file]), ("list", [], []), ("show", [], [.number]), ("instances", [], []),
    ("save", described, [.file]), ("update", described, [.number, .file]),
    ("execute", [], [.text]), ("status", [], [.number, .status])]

/-- The form of a command with a given name. -/
def form? (name : String) : Option CommandForm :=
  (forms.lookup name).map fun (options, places) =>
    ⟨options ++ sharedOptions, ["offline"], places, [], false⟩

/-- A command from its words. -/
def ofWords? (name : String) (words : CommandWords) : Option Command :=
  let version := (words.value? "version").getD standardVersion
  let description := words.value? "description"
  match name with
  | "describe" => some (.describe (words.place? 0))
  | "compile" => do
    let order ← optionalWord StepOrder.ofName? (words.value? "order")
    return .compile (← (words.place? 0).bind fileName?) (← words.value? "name") version
      (order.getD .insertion)
  | "load" => do return .load (← (words.place? 0).bind fileName?)
  | "list" => some .list
  | "show" => do return .show (← (words.place? 0).bind int64OfText?)
  | "instances" => some .runs
  | "save" => do
    return .save (← (words.place? 0).bind fileName?) (← words.value? "name") version description
  | "update" => do
    return .update (← (words.place? 0).bind int64OfText?) (← (words.place? 1).bind fileName?)
      (words.value? "name") version description
  | "execute" => do return .execute (← words.place? 0)
  | "status" => do
    return .status (← (words.place? 0).bind int64OfText?)
      (← (words.place? 1).bind Status.ofAnyCase?)
  | _ => none

end Command

/-- The form of a command line. -/
def Invocation.form : CommandForm :=
  ⟨Command.sharedOptions, ["offline"], [], Command.forms.map Prod.fst, true⟩

/-- What words say of all commands alike. -/
def Settings.ofWords? (words : CommandWords) : Option Settings := do
  let dataDirectory ← optionalWord fileName? (words.value? "data-dir")
  return ⟨dataDirectory, words.value? "base-url", words.has "offline"⟩

/-- Settings where the later ones count. -/
def Settings.override (earlier later : Settings) : Settings :=
  ⟨later.dataDirectory <|> earlier.dataDirectory, later.baseUrl <|> earlier.baseUrl,
    later.offline || earlier.offline⟩

/-- What a command line says, from its words. -/
def Invocation.ofWords (words : List String) : Except Interruption Invocation := do
  let before ← form.sort .empty words
  match before.subcommand with
  | none => return ⟨← orMisuse (Settings.ofWords? before), none⟩
  | some (name, rest) =>
    let own ← orMisuse (Command.form? name)
    let after ← own.sort .empty rest
    let command ← orMisuse (Command.ofWords? name after)
    let settings ← orMisuse (Settings.ofWords? (← form.settle before))
    return ⟨settings.override (← orMisuse (Settings.ofWords? after)), some command⟩

end Workflow
