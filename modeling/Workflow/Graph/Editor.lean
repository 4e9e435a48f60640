import Workflow.Graph.Edit

/-!
# Editing a graph in place

An author has one graph in hand and works on it statement by statement. What is done stays done:
if a statement fails, everything that was changed before it remains changed. The operations are
written here in this way, each with its checks and its changes in sequence. That one of them fails
as a whole or not at all is therefore a fact about this sequence, and not about the form of its
result.
-/

namespace Workflow

/-- Work on a graph that may fail half-way. -/
abbrev Editing := EStateM GraphError Graph

namespace Editing

/-! ## Statements -/

/-- Go on only if a step has the given name. -/
def demandStep (name : String) : Editing Unit := do
  if !(← get).contains name then throw (.unknownStep name)

/-- Go on only if no step has the given name. -/
def demandFree (name : String) : Editing Unit := do
  if (← get).contains name then throw (.duplicateName name)

/-- Put a step at the end. -/
def pushStep (node : StepNode) : Editing Unit :=
  modify fun graph => { graph with steps := graph.steps ++ [node] }

/-- Set one property of the step at a place. -/
def setProperty (place : Nat) (key : String) (value : Json) : Editing Unit :=
  modify fun graph => { graph with steps := graph.steps.modify place (·.setProperty key value) }

/-- Set properties of the step at a place, one after the other. -/
def setProperties (place : Nat) : List (String × Json) → Editing Unit
  | [] => return
  | (key, value) :: rest => do
    setProperty place key value
    setProperties place rest

/-! ## Operations -/

/-- Add a step under a generated name. -/
def addStep (kind : StepKind) (label : String) (now : Int) : Editing String := do
  let suffix := (← get).nextSuffix now
  let name := Graph.generatedName kind suffix
  demandFree name
  modify fun graph => { graph with lastSuffix := suffix }
  let position := .grid (← get).size
  pushStep ⟨name, kind.tag, label, .empty, position⟩
  return name

/-- Add a step under its own name. -/
def insertStep (node : StepNode) : Editing Unit := do
  demandFree node.name
  pushStep node

/-- Set properties of the step with a given name. -/
def updateFields (name : String) (properties : Fields) : Editing Unit := do
  match (← get).indexOf? name with
  | none => throw (.unknownStep name)
  | some place => setProperties place properties.entries

/-- Draw an edge between two steps. -/
def connect (source target : String) : Editing String := do
  demandStep source
  demandStep target
  let id := (← get).freeEdgeId source target
  modify fun graph => { graph with edges := graph.edges ++ [⟨id, source, target⟩] }
  return id

/-- Remove one edge. -/
def disconnect (id : String) : Editing Edge := do
  let graph ← get
  match graph.edges.findIdx? (fun edge => edge.id = id), graph.edges.find? (·.id = id) with
  | some place, some edge =>
    set { graph with edges := graph.edges.eraseIdx place }
    return edge
  | _, _ => throw (.unknownEdge id)

/-- Remove a step: first the edges that touch it, then the step itself. -/
def removeStep (name : String) : Editing StepNode := do
  let found ← get
  match found.indexOf? name, found.step? name with
  | some place, some node =>
    modify fun graph =>
      { graph with edges := graph.edges.filter fun edge =>
          edge.source ≠ name && edge.target ≠ name }
    modify fun graph => { graph with steps := graph.steps.eraseIdx place }
    return node
  | _, _ => throw (.unknownStep name)

/-- Carry out an edit. -/
def carryOut : Edit → Editing Edit.Result
  | .add kind label now => return .name (← addStep kind label now)
  | .insert node => do
    insertStep node
    return .name node.name
  | .update step properties => do
    updateFields step properties
    return .done
  | .connect source target => return .name (← connect source target)
  | .disconnect edge => return .edge (← disconnect edge)
  | .remove step => return .node (← removeStep step)

/-- The graph that work leaves behind, whether it ends well or not. -/
def left {α : Type} : EStateM.Result GraphError Graph α → Graph
  | .ok _ graph => graph
  | .error _ graph => graph

end Editing

/-- The graph after a session of edits, failed ones among them. -/
def Graph.session (graph : Graph) (edits : List Edit) : Graph :=
  edits.foldl (fun graph edit => Editing.left ((Editing.carryOut edit).run graph)) graph

end Workflow
