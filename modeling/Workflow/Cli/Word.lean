import Workflow.Text.Digits
import Workflow.Definition.Emission
import Workflow.Engine.Record

/-!
# Words with a meaning

What a word of a command line may have to be: any text, the name of a file, a number, or one of a
few names. A number may have a sign, and a file's name must not be empty.
-/

namespace Workflow

/-- A number of 64 bits with or without a sign. -/
def int64OfText? (text : String) : Option Int64 :=
  let number (digits : List Char) : Option Int :=
    if digits ≠ [] ∧ digits.all Char.isDigit then some (digitsValue digits) else none
  let value : Option Int := match text.toList with
    | '-' :: digits => (number digits).map (- ·)
    | '+' :: digits => number digits
    | digits => number digits
  value.bind fun n =>
    if Int64.minValue.toInt ≤ n ∧ n ≤ Int64.maxValue.toInt then some (Int64.ofInt n) else none

/-- An order of steps by its name. -/
def StepOrder.ofName? : String → Option StepOrder
  | "insertion" => some .insertion
  | "edges" => some .edges
  | _ => none

/-- A file's name. -/
def fileName? (text : String) : Option String :=
  if text = "" then none else some text

/-- What a word must be to have a meaning where it stands. -/
inductive WordKind where
  | text
  | file
  | number
  | order
  | status
deriving DecidableEq, Repr

/-- Whether a word has a meaning. -/
def WordKind.accepts (kind : WordKind) (word : String) : Bool :=
  match kind with
  | text => true
  | file => (fileName? word).isSome
  | number => (int64OfText? word).isSome
  | order => (StepOrder.ofName? word).isSome
  | status => (Status.ofAnyCase? word).isSome

end Workflow
