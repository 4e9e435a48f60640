import Workflow.Json.Decode
import Workflow.Json.Place
import Workflow.Json.Printer
import Workflow.Graph.Edit

/-!
# Graph files

A graph as JSON: its steps and its edges. Steps without fields or position, and files without
steps or edges, are complete; the number of the last generated name is not kept. A file is read
only if its parts form a graph, and what is wrong with them is said before anything is said of
text that follows the graph.
-/

namespace Workflow

/-- A position as an object. -/
def Position.toJson (position : Position) : Json :=
  .object [("x", .number (.real position.x)), ("y", .number (.real position.y))]

/-- A step under construction as an object. -/
def StepNode.toJson (node : StepNode) : Json :=
  .object [("name", .string node.name), ("type", .string node.type),
    ("label", .string node.label), ("fields", node.fields.toJson),
    ("position", node.position.toJson)]

/-- An edge as an object. -/
def Edge.toJson (edge : Edge) : Json :=
  .object [("id", .string edge.id), ("source", .string edge.source),
    ("target", .string edge.target)]

/-- A graph as an object. -/
def Graph.toJson (graph : Graph) : Json :=
  .object [("steps", .array (graph.steps.map StepNode.toJson)),
    ("edges", .array (graph.edges.map Edge.toJson))]

/-- The compact text of a graph file. -/
def Graph.text (graph : Graph) : String :=
  graph.toJson.compact

/-- The indented text of a graph file. -/
def Graph.prettyText (graph : Graph) : String :=
  graph.toJson.pretty

/-- A position from a parse tree. -/
def Position.ofTree? (tree : ParseTree) : Option Position := do
  let [x, y] ← tree.fields? ["x", "y"] | none
  return ⟨← ParseTree.required ParseTree.binary64? x, ← ParseTree.required ParseTree.binary64? y⟩

/-- A field bag from an object that may nest `room` containers deep. -/
def Fields.ofTree? (room : Nat) (tree : ParseTree) : Option Fields :=
  match tree.toJson? room with
  | some (.object members) => some (.ofMembers members)
  | _ => none

/-- A step under construction from a parse tree; its fields lie three containers deep. -/
def StepNode.ofTree? (tree : ParseTree) : Option StepNode := do
  let [name, type, label, fields, position] ←
    tree.fields? ["name", "type", "label", "fields", "position"] | none
  return {
    name := ← ParseTree.required ParseTree.string? name
    type := ← ParseTree.required ParseTree.string? type
    label := ← ParseTree.required ParseTree.string? label
    fields := ← ParseTree.defaulted .empty (Fields.ofTree? (Json.maxDepth - 3)) fields
    position := ← ParseTree.defaulted .origin Position.ofTree? position }

/-- An edge from a parse tree. -/
def Edge.ofTree? (tree : ParseTree) : Option Edge := do
  let [id, source, target] ← tree.fields? ["id", "source", "target"] | none
  return ⟨← ParseTree.required ParseTree.string? id,
    ← ParseTree.required ParseTree.string? source, ← ParseTree.required ParseTree.string? target⟩

/-- Why a graph file cannot be read. -/
inductive GraphFileError where
  /-- The text is not JSON, or not of the shape of a graph file. -/
  | malformed
  /-- The parts do not form a graph. -/
  | graph (error : GraphError)
deriving DecidableEq, Repr

/-- What is said of parts of a file that do not form a graph. What a message of a file's reader ends
in is a place in the file, even where a name in the message only looks like one. -/
def GraphError.fileMessage (error : GraphError) : String :=
  .ofList (Place.plain error.message.toList)

/-- The steps and edges of a graph file from a parse tree. -/
def Graph.partsOfTree? (tree : ParseTree) : Option (List StepNode × List Edge) := do
  let [steps, edges] ← tree.fields? ["steps", "edges"] | none
  return (← ParseTree.defaulted [] (ParseTree.list? StepNode.ofTree?) steps,
    ← ParseTree.defaulted [] (ParseTree.list? Edge.ofTree?) edges)

/-- The graph that a file's text describes. -/
def Graph.ofText (text : String) : Except GraphFileError Graph :=
  match ParseTree.readFirst text with
  | none => .error .malformed
  | some (tree, rest) =>
    match Graph.partsOfTree? tree with
    | none => .error .malformed
    | some (steps, edges) =>
      match Graph.ofParts steps edges with
      | .error error => .error (.graph error)
      | .ok graph => if (ParseTree.skipSpace rest).isEmpty then .ok graph else .error .malformed

end Workflow
