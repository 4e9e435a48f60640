import Workflow.Json.Fields
import Workflow.Step.Kind

/-!
# Step graphs

What an author edits: steps with free-form fields and a place on a canvas, and edges drawn between
them. Steps keep the order in which they were inserted. A step is known by its name and an edge
by its identifier; `WellFormed` says that names and identifiers are unique and that edges join
steps of the graph. Edges have no meaning of their own until a definition is compiled in their
order.
-/

namespace Workflow

/-- A place on the canvas. -/
structure Position where
  x : Binary64
  y : Binary64
deriving DecidableEq, Repr

namespace Position

/-- The corner of the canvas. -/
def origin : Position :=
  ⟨.zero false, .zero false⟩

instance : Inhabited Position := ⟨origin⟩

/-- The double nearest to a count times that spacing, as far as 64 bits count. -/
def coordinate (count : Nat) (spacing : Binary64) : Binary64 :=
  if h : count ≤ 0x10000000000000000 then ((Binary64.ofNat count h).mul? spacing).getD (.zero false)
  else .zero false

/-- The slot of the step at an index: four to a row, 200 apart across and 120 down. -/
def grid (index : Nat) : Position :=
  ⟨coordinate (index % 4) (.ofNat 200 (by decide)), coordinate (index / 4) (.ofNat 120 (by decide))⟩

end Position

/-- A step under construction. Its type may be unknown, and its fields may hold anything, also
what belongs to other types. -/
structure StepNode where
  name : String
  type : String
  label : String
  fields : Fields
  position : Position
deriving DecidableEq, Repr, Inhabited

namespace StepNode

/-- The kind of step, if the type is known. -/
def kind? (node : StepNode) : Option StepKind :=
  StepKind.ofTag? node.type

/-- The value of a field; null counts as absent. -/
def field? (node : StepNode) (name : String) : Option Json :=
  (node.fields.get? name).filter (· ≠ .null)

end StepNode

/-- A drawn connection from one step to another. -/
structure Edge where
  id : String
  source : String
  target : String
deriving DecidableEq, Repr, Inhabited

/-- Steps in insertion order and the edges between them. -/
structure Graph where
  steps : List StepNode
  edges : List Edge
  /-- The last number given to a generated step name, zero before any. -/
  lastSuffix : Nat := 0
deriving DecidableEq, Repr, Inhabited

namespace Graph

/-- The graph without steps. -/
def empty : Graph :=
  ⟨[], [], 0⟩

/-- The names of the steps, in order. -/
def names (graph : Graph) : List String :=
  graph.steps.map StepNode.name

/-- The identifiers of the edges, in order. -/
def edgeIds (graph : Graph) : List String :=
  graph.edges.map Edge.id

/-- The number of steps. -/
def size (graph : Graph) : Nat :=
  graph.steps.length

/-- Names are unique, edge identifiers are unique, and every edge joins two steps. -/
structure WellFormed (graph : Graph) : Prop where
  names_nodup : graph.names.Nodup
  edgeIds_nodup : graph.edgeIds.Nodup
  source_mem : ∀ edge ∈ graph.edges, edge.source ∈ graph.names
  target_mem : ∀ edge ∈ graph.edges, edge.target ∈ graph.names

/-- The step with a given name. -/
def step? (graph : Graph) (name : String) : Option StepNode :=
  graph.steps.find? fun node => node.name = name

/-- Whether a step has a given name. -/
def contains (graph : Graph) (name : String) : Bool :=
  (graph.step? name).isSome

/-- The place of a step in insertion order. -/
def indexOf? (graph : Graph) (name : String) : Option Nat :=
  graph.steps.findIdx? fun node => node.name = name

/-- The targets of the edges out of a step, in edge order. -/
def successors (graph : Graph) (name : String) : List String :=
  (graph.edges.filter fun edge => edge.source = name).map Edge.target

/-- The sources of the edges into a step, in edge order. -/
def predecessors (graph : Graph) (name : String) : List String :=
  (graph.edges.filter fun edge => edge.target = name).map Edge.source

/-- The steps without an edge into them, in insertion order. -/
def entryPoints (graph : Graph) : List String :=
  graph.names.filter fun name => graph.edges.all fun edge => edge.target ≠ name

@[simp] theorem contains_iff {graph : Graph} {name : String} :
    graph.contains name = true ↔ name ∈ graph.names := by
  simp [contains, step?, names]

end Graph

end Workflow
