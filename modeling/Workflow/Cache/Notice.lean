import Workflow.Engine.Request

/-!
# Notices

How the outcome of an operation is told to the person who asked for it: one sentence, and for a
failure the reason.
-/

namespace Workflow

/-- Whether a notice tells of a success or of a failure. -/
inductive NoticeLevel where
  | success
  | error
deriving DecidableEq, Repr, Inhabited

/-- The outcome of an operation in words. -/
structure Notice where
  level : NoticeLevel
  operation : Operation
  message : String
  /-- Why the operation failed. -/
  detail : Option String
deriving DecidableEq, Repr, Inhabited

/-- The sentence for an operation that succeeded on a workflow, if it is about one. -/
def Operation.successMessage (subject : Option String) : Operation → String
  | .listDefinitions => "Workflows loaded"
  | .getDefinition => "Workflow loaded"
  | .createDefinition => "Workflow saved successfully"
  | .updateDefinition => "Workflow updated successfully"
  | .executeByName =>
    match subject with
    | some name => "Workflow \"" ++ name ++ "\" executed successfully"
    | none => "Workflow executed successfully"
  | .setStatus => "Workflow status updated"
  | .listRuns => "Workflow instances loaded"

namespace Notice

/-- The notice of a success. -/
def success (operation : Operation) (subject : Option String) : Notice :=
  ⟨.success, operation, operation.successMessage subject, none⟩

/-- The notice of a failure. -/
def failure (operation : Operation) (reason : String) : Notice :=
  ⟨.error, operation, "Failed to " ++ operation.description, some reason⟩

/-- The same notice with another sentence. -/
def withMessage (notice : Notice) (message : String) : Notice :=
  { notice with message }

/-- Whether a notice tells of a failure. -/
def isError (notice : Notice) : Bool :=
  notice.level = .error

end Notice

end Workflow
