import Std.Time.DateTime.Timestamp
import Workflow.Cli.Run
import Workflow.Remote.Unreachable

/-!
# The program

The command line around `World.run`: it gathers what a command may look at, carries the command
out, writes the file that the command leaves behind and prints. The program has no network of its
own, so only the local engine answers.
-/

namespace Workflow

/-- What is at a path. -/
def readContent (path : String) : IO FileContent := do
  try
    return .text (← IO.FS.readFile path)
  catch
    | .noFileOrDirectory .. => return .missing
    | _ => return .unreadable

/-- What is typed in, unless that is a person at a terminal. -/
def readInput : IO FileContent := do
  let input ← IO.getStdin
  if ← input.isTty then return .missing
  try
    return .text (← input.readToEnd)
  catch _ =>
    return .unreadable

/-- Nanoseconds since the start of 1970. -/
def currentNanos : IO Int := do
  return (← Std.Time.Timestamp.now).toNanosecondsSinceUnixEpoch.val

/-- What the clock shows, read as often as a request may ask for it. -/
def readClock : IO Clock := do
  let start ← currentNanos
  let finish ← currentNanos
  let last ← currentNanos
  return ⟨start, finish, last / Clock.nanosPerMilli⟩

/-- The world as a command line finds it: only what the command may look at is gathered. -/
def World.gather (invocation : Invocation) : IO World := do
  let home ← IO.getEnv "HOME"
  let clock ← readClock
  let input ← match invocation.command with
    | some (.execute _) => readInput
    | _ => pure .missing
  let bare : World := ⟨fun _ => .missing, input, clock, home, .unreachable⟩
  match bare.dataDirectory invocation.settings with
  | .error _ => return bare
  | .ok directory =>
    let files ← (invocation.files directory).mapM fun path => do
      return (path, ← readContent path)
    return { bare with file := fun path => (files.lookup path).getD .missing }

/-- Write the file that a command leaves behind, in a directory that is made for it. -/
def writeContent (path text : String) : IO Writing := do
  let directory := parentDirectory path
  try
    if directory ≠ "" then IO.FS.createDirAll directory
  catch error =>
    return .noDirectory (toString error)
  try
    IO.FS.writeFile path text
    return .done
  catch error =>
    return .failed (toString error)

/-- Carry out a command line that makes sense. -/
def perform (invocation : Invocation) : IO UInt32 := do
  let outcome := (← World.gather invocation).run invocation
  for remark in outcome.printed.remarks do
    IO.eprintln remark
  IO.print outcome.printed.output
  let writing ← match outcome.written with
    | some (path, text) => writeContent path text
    | none => pure .done
  IO.eprint (Cause.report (outcome.causes writing))
  return .ofNat (outcome.exitCode writing)

end Workflow

/-- Carry out what the command line says. -/
def main (words : List String) : IO UInt32 :=
  match Workflow.Invocation.ofWords words with
  | .ok invocation => Workflow.perform invocation
  | .error .helpWanted => do
    IO.println Workflow.usage
    return 0
  | .error .versionWanted => do
    IO.println Workflow.versionText
    return 0
  | .error .misuse => do
    IO.eprintln Workflow.usage
    return 2
