import Workflow.Json.Printer
import Workflow.Step.Basic
import Workflow.Graph.Basic

/-!
# Holding a step to its contract

The compiled form of one step under construction. Every field of the step's kind is read: the
value that the step has for it, or else the default. Fields of other kinds are passed over. The
value must be of the field's kind, and a whole number must not be below the field's minimum.
-/

namespace Workflow

/-- What is wrong with the value of a field. -/
inductive FieldDefect where
  | notAField (kind : StepKind)
  | notText (value : Json)
  | notWhole (value : Json)
  | belowMinimum (min value : Int)
  | outOfRange (value : Int)
deriving DecidableEq, Repr

/-- A defect as it is reported. -/
def FieldDefect.message : FieldDefect → String
  | .notAField kind => "not a field of " ++ kind.tag
  | .notText value => "expected a string, got " ++ value.compact
  | .notWhole value => "expected an integer, got " ++ value.compact
  | .belowMinimum min value => "must be at least " ++ toString min ++ ", got " ++ toString value
  | .outOfRange value => toString value ++ " is out of range"

/-- Why a graph has no definition. -/
inductive CompileError where
  | unknownType (step type : String)
  | invalidField (step field : String) (defect : FieldDefect)
  | blankName
  | blankVersion
  | cycle
deriving DecidableEq, Repr

/-- An error as it is reported. -/
def CompileError.message : CompileError → String
  | .unknownType step type => "step '" ++ step ++ "' has unknown type '" ++ type ++ "'"
  | .invalidField step field defect =>
    "step '" ++ step ++ "' field '" ++ field ++ "': " ++ defect.message
  | .blankName => "invalid definition: workflow name must not be empty"
  | .blankVersion => "invalid definition: workflow version must not be empty"
  | .cycle => "cycle detected in workflow graph"

/-! ## Whole numbers -/

/-- The greatest whole number of a field. -/
def maxFieldValue : Int := 0x7fffffffffffffff

/-- The least whole number of a field. -/
def minFieldValue : Int := -0x8000000000000000

/-- The whole number that a double stands for, if it is not beyond `2 ^ 63` either way; `2 ^ 63`
itself counts as the greatest field value. -/
def Binary64.fieldValue? (x : Binary64) : Option Int :=
  if x.isWhole ∧ minFieldValue ≤ x.toInt ∧ x.toInt ≤ maxFieldValue + 1 then
    some (min x.toInt maxFieldValue)
  else none

/-- The whole number that a number stands for in a field. A whole number beyond the greatest
field value is rounded to a double first. -/
def Number.fieldValue? (number : Number) : Option Int :=
  match number with
  | .integer n _ => if n ≤ maxFieldValue then some n else number.toBinary64.fieldValue?
  | .real x => x.fieldValue?

/-! ## Fields -/

namespace FieldSpec

/-- The text of a field value. -/
def readText (_ : FieldSpec) : Json → Except FieldDefect String
  | .string text => .ok text
  | value => .error (.notText value)

/-- The whole number of a field value. -/
def readWhole (spec : FieldSpec) (value : Json) : Except FieldDefect Int :=
  let whole := match value with
    | .number n => n.fieldValue?
    | _ => none
  match whole with
  | none => .error (.notWhole value)
  | some n =>
    match spec.constraints.min with
    | some min => if n < min then .error (.belowMinimum min n) else .ok n
    | none => .ok n

/-- The whole number of a field value that must not be negative. -/
def readUnsigned (spec : FieldSpec) (value : Json) : Except FieldDefect UInt64 := do
  let n ← spec.readWhole value
  if 0 ≤ n then .ok (UInt64.ofNat n.toNat) else .error (.outOfRange n)

end FieldSpec

namespace StepNode

/-- The value of a field that counts: the step's own, or the default. -/
def value (node : StepNode) (spec : FieldSpec) : Json :=
  (node.field? spec.name).getD spec.default.toJson

/-- Read a field of a kind from a step. -/
def read {α : Type} (node : StepNode) (kind : StepKind) (field : String)
    (reading : FieldSpec → Json → Except FieldDefect α) : Except CompileError α :=
  match kind.descriptor.field? field with
  | none => .error (.invalidField node.name field (.notAField kind))
  | some spec => (reading spec (node.value spec)).mapError (.invalidField node.name field)

/-- What a step of a known kind does. -/
def action (node : StepNode) (kind : StepKind) : Except CompileError Action :=
  let text field := node.read kind field FieldSpec.readText
  let unsigned field := node.read kind field FieldSpec.readUnsigned
  match kind with
  | .serviceCall => return .serviceCall (← text "service") (← text "endpoint")
  | .scheduleTask => return .scheduleTask (← text "task") (← text "cron")
  | .dataProcessing => return .dataProcessing (← text "processingType") (← unsigned "batchSize")
  | .notification => return .notification (← text "notificationType") (← text "message")
  | .condition =>
    return .condition (← text "condition") (← text "trueStep") (← text "falseStep")
  | .graphqlCall => return .graphqlCall (← text "service") (← text "query")
  | .delay => return .delay (← unsigned "delayMs")
  | .externalEvent => return .externalEvent (← text "eventType")

/-- The compiled form of a step. -/
def compile (node : StepNode) : Except CompileError Step :=
  match node.kind? with
  | none => .error (.unknownType node.name node.type)
  | some kind => (node.action kind).map fun action => ⟨node.name, action⟩

end StepNode

end Workflow
