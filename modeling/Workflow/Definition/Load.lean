import Workflow.Text.Blank
import Workflow.Definition.Basic
import Workflow.Graph.Edit

/-!
# From a definition to a graph

The graph of a definition has its steps, in order, on a grid, joined into one chain: a definition
does not keep the edges it was compiled from. Anything with a list of typed steps will do. A step
without a name gets one from its type and place; members other than name and type become fields.
Whether types and fields make sense is not asked before the graph is compiled.
-/

namespace Workflow

/-- What is wrong with the shape of a definition. -/
inductive DefinitionDefect where
  | noContent
  | notJson
  | notObject
  | stepsNotArray
  | stepNotObject (index : Nat)
  | stepWithoutType (index : Nat)
  | nameNotText (index : Nat)
deriving DecidableEq, Repr

/-- A defect as it is reported. -/
def DefinitionDefect.message : DefinitionDefect → String
  | .noContent => "definition has no content"
  | .notJson => "invalid JSON: not a JSON text"
  | .notObject => "document is not an object"
  | .stepsNotArray => "'steps' is not an array"
  | .stepNotObject index => "step " ++ toString index ++ " is not an object"
  | .stepWithoutType index => "step " ++ toString index ++ " has no type"
  | .nameNotText index => "step " ++ toString index ++ " has a non-string name"

/-- Why a definition has no graph. -/
inductive LoadError where
  | malformed (defect : DefinitionDefect)
  | graph (error : GraphError)
deriving DecidableEq, Repr

/-- An error as it is reported. -/
def LoadError.message : LoadError → String
  | .malformed defect => "malformed definition: " ++ defect.message
  | .graph error => error.message

namespace Graph

/-- The entries of a definition's list of steps; without a list there are none. -/
def stepEntries (members : List (String × Json)) : Except DefinitionDefect (List Json) :=
  match members.lookup "steps" with
  | none | some .null => .ok []
  | some (.array entries) => .ok entries
  | some _ => .error .stepsNotArray

/-- The type of an entry. -/
def entryType (index : Nat) (members : List (String × Json)) : Except DefinitionDefect String :=
  match members.lookup "type" with
  | some (.string type) => if isBlank type then .error (.stepWithoutType index) else .ok type
  | _ => .error (.stepWithoutType index)

/-- The name of an entry, if it has one that is not blank. -/
def entryName? (index : Nat) (members : List (String × Json)) :
    Except DefinitionDefect (Option String) :=
  match members.lookup "name" with
  | none | some .null => .ok none
  | some (.string name) => .ok (if isBlank name then none else some name)
  | some _ => .error (.nameNotText index)

/-- The step that an entry describes. -/
def nodeOfEntry (index : Nat) : Json → Except DefinitionDefect StepNode
  | .object members => do
    let type ← entryType index members
    let name? ← entryName? index members
    return {
      name := name?.getD (type ++ "-" ++ toString index)
      type
      label := name?.getD (type ++ " Node")
      fields := .ofMembers (members.filter fun (key, _) => key ≠ "name" && key ≠ "type")
      position := .grid index }
  | _ => .error (.stepNotObject index)

/-- Add the steps of entries, the first of which has the given index. -/
def insertEntries (graph : Graph) (index : Nat) : List Json → Except LoadError Graph
  | [] => .ok graph
  | entry :: rest => do
    let node ← (nodeOfEntry index entry).mapError .malformed
    let graph ← (graph.insertStep node).mapError .graph
    insertEntries graph (index + 1) rest

/-- Draw an edge from every step of a list to the one after it. -/
def connectChain (graph : Graph) : List String → Except GraphError Graph
  | source :: target :: rest => do
    let (_, graph) ← graph.connect source target
    connectChain graph (target :: rest)
  | _ => .ok graph

/-- The graph of a definition given as a value. -/
def ofJson : Json → Except LoadError Graph
  | .object members => do
    let entries ← (stepEntries members).mapError .malformed
    let graph ← insertEntries .empty 0 entries
    (graph.connectChain graph.names).mapError .graph
  | _ => .error (.malformed .notObject)

/-- The graph of a definition given as text. -/
def ofDefinitionText (text : String) : Except LoadError Graph :=
  match Json.ofText? text with
  | none => .error (.malformed .notJson)
  | some value => ofJson value

/-- The graph of a definition. -/
def ofDefinition (definition : Definition) : Except LoadError Graph :=
  ofJson definition.toJson

end Graph

end Workflow
