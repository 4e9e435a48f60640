import Workflow.File
import Workflow.Json.Decode
import Workflow.Json.Printer
import Workflow.Url.Read

/-!
# Connection settings

Where the remote engine is and how long to wait for it. The settings are kept in a file in which
every member is optional; without the file all of them have their defaults.
-/

namespace Workflow

/-- How to reach the remote engine. -/
structure Connection where
  baseUrl : String
  timeoutMs : UInt64
deriving DecidableEq, Repr

/-- Why there are no settings. -/
inductive ConnectionError where
  | unreadable
  | malformed
deriving DecidableEq, Repr

namespace Connection

/-- The settings of an engine on the same machine. -/
def standard : Connection :=
  ⟨"http://localhost:8080", 30000⟩

instance : Inhabited Connection := ⟨standard⟩

/-- Settings from a parse tree. -/
def ofTree? (tree : ParseTree) : Option Connection := do
  let [baseUrl, timeoutMs] ← tree.fields? ["base_url", "timeout_ms"] | none
  return {
    baseUrl := ← ParseTree.defaulted standard.baseUrl ParseTree.string? baseUrl
    timeoutMs := ← ParseTree.defaulted standard.timeoutMs ParseTree.uint64? timeoutMs }

/-- Settings as an object. -/
def toJson (connection : Connection) : Json :=
  .object [("base_url", .string connection.baseUrl),
    ("timeout_ms", .integer connection.timeoutMs.toNat)]

/-- Settings from their file. -/
def ofFile : FileContent → Except ConnectionError Connection
  | .missing => .ok standard
  | .unreadable => .error .unreadable
  | .text content =>
    match (ParseTree.read content).bind ofTree? with
    | some connection => .ok connection
    | none => .error .malformed

/-- The same settings with another address, if one is given. -/
def withBaseUrl (connection : Connection) (baseUrl : Option String) : Connection :=
  { connection with baseUrl := baseUrl.getD connection.baseUrl }

/-- The engine's address. -/
def url (connection : Connection) : Except UrlError Url :=
  Url.ofText connection.baseUrl

/-- What is said of an address that is none. -/
def invalidUrlMessage (connection : Connection) (error : UrlError) : String :=
  "invalid base url '" ++ connection.baseUrl ++ "': " ++ error.message

end Connection

end Workflow
