import Workflow.Graph.Basic

/-!
# Building and editing graphs

Every operation either gives the changed graph or says what is wrong and changes nothing. A graph
is built from parts only if they are well formed, and each operation keeps it so: a step gets in
only under a free name, an edge only between steps and under a free identifier, and a step leaves
together with its edges.

`Edit` names the operations as data, so that a whole session is a list of edits.
-/

namespace Workflow

/-- What can be wrong with a graph or with an edit of it. -/
inductive GraphError where
  | unknownStep (name : String)
  | duplicateName (name : String)
  | duplicateEdge (id : String)
  | unknownEdge (id : String)
deriving DecidableEq, Repr

/-- An error as it is reported. -/
def GraphError.message : GraphError → String
  | .unknownStep name => "step not found: " ++ name
  | .duplicateName name => "duplicate step name: " ++ name
  | .duplicateEdge id => "duplicate edge id: " ++ id
  | .unknownEdge id => "edge not found: " ++ id

namespace Graph

/-! ## Graphs from parts -/

/-- The first name of a list that one of `seen`, or an earlier one of the list, already is. -/
def firstRepeated (seen : List String) : List String → Option String
  | [] => none
  | name :: rest => if name ∈ seen then some name else firstRepeated (name :: seen) rest

/-- The first defect of a list of edges between named steps: of each edge its identifier is
looked at first, then its source, then its target. -/
def firstDefect (names seen : List String) : List Edge → Option GraphError
  | [] => none
  | edge :: rest =>
    if edge.id ∈ seen then some (.duplicateEdge edge.id)
    else if edge.source ∉ names then some (.unknownStep edge.source)
    else if edge.target ∉ names then some (.unknownStep edge.target)
    else firstDefect names (edge.id :: seen) rest

/-- The graph of the given steps and edges, if they form one. -/
def ofParts (steps : List StepNode) (edges : List Edge) : Except GraphError Graph :=
  let names := steps.map StepNode.name
  match firstRepeated [] names with
  | some name => .error (.duplicateName name)
  | none =>
    match firstDefect names [] edges with
    | some defect => .error defect
    | none => .ok ⟨steps, edges, 0⟩

/-! ## Steps -/

/-- Add a step at the end, under its own name. -/
def insertStep (graph : Graph) (node : StepNode) : Except GraphError Graph :=
  if graph.contains node.name then .error (.duplicateName node.name)
  else .ok { graph with steps := graph.steps ++ [node] }

/-- The greatest number that a generated name can have. -/
def maxSuffix : Nat := 0xffffffffffffffff

/-- The number of the next generated name: the clock in milliseconds, or one more than the last
number if the clock has not passed it. A clock before 1970 reads as zero. -/
def nextSuffix (graph : Graph) (now : Int) : Nat :=
  max now.toNat (min (graph.lastSuffix + 1) maxSuffix)

/-- The generated name for a kind of step and a number. -/
def generatedName (kind : StepKind) (suffix : Nat) : String :=
  kind.tag ++ "-" ++ toString suffix

/-- Add a step of a kind without fields, under a generated name, in the next slot of the grid. -/
def addStep (graph : Graph) (kind : StepKind) (label : String) (now : Int) :
    Except GraphError (String × Graph) :=
  let suffix := graph.nextSuffix now
  let name := generatedName kind suffix
  if graph.contains name then .error (.duplicateName name)
  else
    let node : StepNode := ⟨name, kind.tag, label, .empty, .grid graph.size⟩
    .ok (name, { graph with steps := graph.steps ++ [node], lastSuffix := suffix })

end Graph

/-- Set one property of a step: its label, if the value is text, or a field. Its name and type
are fixed. -/
def StepNode.setProperty (node : StepNode) (key : String) (value : Json) : StepNode :=
  if key = "name" ∨ key = "type" then node
  else if key = "label" then
    match value with
    | .string label => { node with label }
    | _ => node
  else { node with fields := node.fields.insert key value }

/-- Set several properties of a step. -/
def StepNode.setProperties (node : StepNode) (properties : Fields) : StepNode :=
  properties.entries.foldl (fun node entry => node.setProperty entry.1 entry.2) node

namespace Graph

/-- Set properties of the step with a given name. -/
def updateFields (graph : Graph) (name : String) (properties : Fields) :
    Except GraphError Graph :=
  match graph.indexOf? name with
  | none => .error (.unknownStep name)
  | some i => .ok { graph with steps := graph.steps.modify i (·.setProperties properties) }

/-- Remove a step and every edge that touches it. -/
def removeStep (graph : Graph) (name : String) : Except GraphError (StepNode × Graph) :=
  match graph.indexOf? name, graph.step? name with
  | some i, some node =>
    let apart (edge : Edge) : Bool := edge.source ≠ name && edge.target ≠ name
    .ok (node, { graph with steps := graph.steps.eraseIdx i, edges := graph.edges.filter apart })
  | _, _ => .error (.unknownStep name)

/-! ## Edges -/

/-- The identifiers to try for an edge: its ends joined by a hyphen, then the same with 1, 2, …
after another hyphen. There is one more of them than there are edges, so one is free. -/
def edgeIdCandidates (graph : Graph) (source target : String) : List String :=
  let base := source ++ "-" ++ target
  base :: (List.range graph.edges.length).map fun k => base ++ "-" ++ toString (k + 1)

/-- The first identifier that no edge has. -/
def freeEdgeId (graph : Graph) (source target : String) : String :=
  ((graph.edgeIdCandidates source target).find? fun id => id ∉ graph.edgeIds).getD ""

/-- Draw an edge between two steps, beside any that already joins them. -/
def connect (graph : Graph) (source target : String) : Except GraphError (String × Graph) :=
  if !graph.contains source then .error (.unknownStep source)
  else if !graph.contains target then .error (.unknownStep target)
  else
    let id := graph.freeEdgeId source target
    .ok (id, { graph with edges := graph.edges ++ [⟨id, source, target⟩] })

/-- Remove one edge. -/
def disconnect (graph : Graph) (id : String) : Except GraphError (Edge × Graph) :=
  match graph.edges.findIdx? (fun edge => edge.id = id), graph.edges.find? (·.id = id) with
  | some i, some edge => .ok (edge, { graph with edges := graph.edges.eraseIdx i })
  | _, _ => .error (.unknownEdge id)

end Graph

/-! ## Edits as data -/

/-- One operation on a graph. -/
inductive Edit where
  | add (kind : StepKind) (label : String) (now : Int)
  | insert (node : StepNode)
  | update (step : String) (properties : Fields)
  | connect (source target : String)
  | disconnect (edge : String)
  | remove (step : String)
deriving Repr

/-- What an edit gives besides the changed graph. -/
inductive Edit.Result where
  | done
  | name (name : String)
  | edge (edge : Edge)
  | node (node : StepNode)
deriving DecidableEq, Repr

/-- Carry out an edit. -/
def Graph.apply (graph : Graph) : Edit → Except GraphError (Edit.Result × Graph)
  | .add kind label now => (graph.addStep kind label now).map fun (name, g) => (.name name, g)
  | .insert node => (graph.insertStep node).map fun g => (.name node.name, g)
  | .update step properties => (graph.updateFields step properties).map fun g => (.done, g)
  | .connect source target => (graph.connect source target).map fun (id, g) => (.name id, g)
  | .disconnect edge => (graph.disconnect edge).map fun (e, g) => (.edge e, g)
  | .remove step => (graph.removeStep step).map fun (node, g) => (.node node, g)

/-- The graph after an edit; one that fails leaves it as it was. -/
def Graph.perform (graph : Graph) (edit : Edit) : Graph :=
  match graph.apply edit with
  | .ok (_, changed) => changed
  | .error _ => graph

end Workflow
