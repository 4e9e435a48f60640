import Workflow.File
import Workflow.Cache.Store

/-!
# Outcomes of a command

What a command prints, the remarks it makes on the way and, if it fails, why: a chain of causes
from the outermost to the innermost. A cause may end in words that are not the program's own but
those of whatever could not be read.
-/

namespace Workflow

/-- One message in the chain of causes of a failure. -/
structure Cause where
  text : String
  /-- How something that could not be read is described. -/
  quoted : Option String := none
deriving DecidableEq, Repr

namespace Cause

/-- The whole message. -/
def message (cause : Cause) : String :=
  cause.text ++ cause.quoted.getD ""

/-- A cause in words of something else. -/
def foreign (words : String) : Cause :=
  ⟨"", some words⟩

/-- What the system says of a file that is not there. -/
def noSuchFile : String :=
  "No such file or directory (os error 2)"

/-- What is said of a file that cannot be read. -/
def notReadable : String :=
  "the file cannot be read as text"

/-- What is said of a text that is not what it should be. -/
def notOfThisKind : String :=
  "the text is not JSON of this kind"

/-- The text of a file, or why there is none; `what` says what was tried. -/
def ofFile (what path : String) : FileContent → Except (List Cause) String
  | .text content => .ok content
  | .missing => .error [⟨what ++ ": " ++ path, none⟩, foreign noSuchFile]
  | .unreadable => .error [⟨what ++ ": " ++ path, none⟩, foreign notReadable]

/-- Why the definitions of the local engine are not in their file, if they are not. -/
def ofWriting (path : String) : Writing → List Cause
  | .done => []
  | .noDirectory words =>
    [⟨"failed to create data directory: " ++ parentDirectory path, none⟩, foreign words]
  | .failed words => [⟨"failed to write offline state: " ++ path, none⟩, foreign words]

/-- Why a definition has no graph; only the reader of its text can say why the text is none. -/
def ofLoadError (error : LoadError) : Cause :=
  match error with
  | .malformed .notJson => ⟨"malformed definition: invalid JSON: ", some notOfThisKind⟩
  | _ => ⟨error.message, none⟩

/-- Why a call to a store failed. -/
def ofCallError (error : CallError) : List Cause :=
  match error with
  | .engine _ => [⟨error.message, none⟩]
  | .compile reason => [⟨error.message, none⟩, ⟨reason.message, none⟩]
  | .load reason => [⟨error.message, none⟩, ofLoadError reason]

/-- A failure as it is printed: the outermost cause, then the others, numbered if several. -/
def report : List Cause → String
  | [] => ""
  | [cause] => "Error: " ++ cause.message ++ "\n"
  | [cause, other] =>
    "Error: " ++ cause.message ++ "\n\nCaused by:\n    " ++ other.message ++ "\n"
  | cause :: others =>
    let lines := others.zipIdx.map fun (other, index) =>
      "    " ++ toString index ++ ": " ++ other.message ++ "\n"
    "Error: " ++ cause.message ++ "\n\nCaused by:\n" ++ String.join lines

end Cause

/-- What a command that succeeds gives: its output and the remarks it makes. -/
structure Printed where
  output : String
  remarks : List String
deriving DecidableEq, Repr

/-- What has come of a command. -/
structure Outcome where
  result : Except (List Cause) Printed
  /-- A file that is written, and its text. -/
  written : Option (String × String)
deriving Repr

/-- What is printed: nothing for a failure. -/
def Outcome.printed (outcome : Outcome) : Printed :=
  match outcome.result with
  | .ok printed => printed
  | .error _ => ⟨"", []⟩

/-- Why what is to be written is not, if it is not; `writing` says how that went. -/
def Outcome.unwritten (outcome : Outcome) (writing : Writing) : List Cause :=
  match outcome.written with
  | some (path, _) => Cause.ofWriting path writing
  | none => []

/-- Why the program fails, if it does. Why the file could not be written outweighs why the command
failed. -/
def Outcome.causes (outcome : Outcome) (writing : Writing) : List Cause :=
  match outcome.unwritten writing, outcome.result with
  | [], .error causes => causes
  | causes, _ => causes

/-- The exit code of the program: zero unless it fails. -/
def Outcome.exitCode (outcome : Outcome) (writing : Writing) : Nat :=
  if (outcome.causes writing).isEmpty then 0 else 1

end Workflow
