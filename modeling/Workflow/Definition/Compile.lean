import Workflow.Text.Blank
import Workflow.Definition.Basic
import Workflow.Definition.Emission
import Workflow.Step.Contract

/-!
# From a graph to a definition

A graph has a definition under a name and a version if neither is blank, its steps can be put in
the order asked for, and every step meets its contract. Of several reasons why there is none the
first in this sequence is given, and of several faulty steps the first that would be emitted.

A condition may branch to a step that does not exist; the definition stands, and each such branch
is a warning.
-/

namespace Workflow

/-- A branch of a condition to a step that the workflow does not have. -/
structure DanglingBranch where
  workflow : String
  step : String
  target : String
deriving DecidableEq, Repr

/-- What is said of a branch that leads nowhere. -/
def DanglingBranch.message : String :=
  "condition branches to a step that is not in the workflow"

/-- The branches of a definition's conditions that lead nowhere, in the order of the steps. -/
def Definition.danglingBranches (definition : Definition) : List DanglingBranch :=
  let names := definition.steps.map Step.name
  definition.steps.flatMap fun step =>
    (step.references.filter (· ∉ names)).map fun target => ⟨definition.name, step.name, target⟩

namespace Graph

/-- The steps at given places. -/
def stepsAt (graph : Graph) (places : List Nat) : List StepNode :=
  places.filterMap fun place => graph.steps[place]?

/-- The definition of a graph. -/
def compile (graph : Graph) (order : StepOrder) (name version : String) :
    Except CompileError Definition :=
  if isBlank name then .error .blankName
  else if isBlank version then .error .blankVersion
  else
    match graph.placesIn? order with
    | none => .error .cycle
    | some places =>
      ((graph.stepsAt places).mapM StepNode.compile).map fun steps => ⟨name, version, steps⟩

/-- The compact text of a graph's definition. -/
def compileText (graph : Graph) (order : StepOrder) (name version : String) :
    Except CompileError String :=
  (graph.compile order name version).map Definition.text

/-- The warnings that compiling a graph gives: none if it fails. -/
def compileWarnings (graph : Graph) (order : StepOrder) (name version : String) :
    List DanglingBranch :=
  match graph.compile order name version with
  | .ok definition => definition.danglingBranches
  | .error _ => []

end Graph

end Workflow
