/-!
# Kinds of step

The closed set of things a workflow step can do, in the order in which a palette offers them, and
the tag that stands for each in files and messages.
-/

namespace Workflow

/-- What a step does. -/
inductive StepKind where
  | serviceCall
  | scheduleTask
  | dataProcessing
  | notification
  | condition
  | graphqlCall
  | delay
  | externalEvent
deriving DecidableEq, Repr, Inhabited

namespace StepKind

/-- Every kind, in palette order. -/
def all : List StepKind :=
  [serviceCall, scheduleTask, dataProcessing, notification, condition, graphqlCall, delay,
    externalEvent]

/-- The tag of a kind. -/
def tag : StepKind → String
  | serviceCall => "service_call"
  | scheduleTask => "schedule_task"
  | dataProcessing => "data_processing"
  | notification => "notification"
  | condition => "condition"
  | graphqlCall => "graphql_call"
  | delay => "delay"
  | externalEvent => "external_event"

/-- The kind with a given tag. -/
def ofTag? (tag : String) : Option StepKind :=
  all.find? fun kind => kind.tag = tag

/-- What is said of a tag that no kind has. -/
def unknownTagMessage (tag : String) : String :=
  "unknown step type: " ++ tag

theorem mem_all (kind : StepKind) : kind ∈ all := by
  cases kind <;> decide

theorem tag_injective {a b : StepKind} (h : a.tag = b.tag) : a = b := by
  cases a <;> cases b <;> first | rfl | (revert h; decide)

@[simp] theorem ofTag?_tag (kind : StepKind) : ofTag? kind.tag = some kind := by
  cases kind <;> decide

theorem ofTag?_eq_some_iff {tag : String} {kind : StepKind} :
    ofTag? tag = some kind ↔ tag = kind.tag := by
  refine ⟨fun h => ?_, fun h => h ▸ ofTag?_tag kind⟩
  have found := List.find?_some (show all.find? (fun kind => kind.tag = tag) = some kind from h)
  exact (of_decide_eq_true found).symm

end StepKind

end Workflow
