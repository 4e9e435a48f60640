import Workflow.Step.Text

/-!
# Workflow definitions

What the engine stores and runs: a named and versioned list of steps, in the order in which they
run. A definition travels as JSON text, compact between programs and indented for readers.
-/

namespace Workflow

/-- A named, versioned, ordered list of steps. -/
structure Definition where
  name : String
  version : String
  steps : List Step
deriving DecidableEq, Repr, Inhabited

namespace Definition

/-- The first step with a given name. -/
def step? (definition : Definition) (name : String) : Option Step :=
  definition.steps.find? fun step => step.name = name

/-- A definition as an object. -/
def toJson (definition : Definition) : Json :=
  .object [("name", .string definition.name), ("version", .string definition.version),
    ("steps", .array (definition.steps.map Step.toJson))]

/-- The compact text of a definition. -/
def text (definition : Definition) : String :=
  definition.toJson.compact

/-- The indented text of a definition. -/
def prettyText (definition : Definition) : String :=
  definition.toJson.pretty

/-- A definition from a parse tree; its steps lie two containers deep. -/
def ofTree? (tree : ParseTree) : Option Definition := do
  let [name, version, steps] ← tree.fields? ["name", "version", "steps"] | none
  return ⟨← ParseTree.required ParseTree.string? name,
    ← ParseTree.required ParseTree.string? version,
    ← ParseTree.required (ParseTree.list? (Step.ofTree? (Json.maxDepth - 3))) steps⟩

/-- A definition from its text. -/
def ofText? (text : String) : Option Definition := do
  ofTree? (← ParseTree.read text)

end Definition

end Workflow
