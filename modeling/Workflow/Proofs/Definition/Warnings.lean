import Workflow.Proofs.Definition.Acceptance

/-!
# Branches that lead nowhere

The compiler warns of conditions that branch to steps which do not exist. Its warnings are told
here from the steps of the graph alone. A condition has two fields that name steps, and a branch
is stray if no step of the graph has the name. Several branches may be to one name, and a step may
branch to itself.

Whatever the order, the steps are the same and so are the warnings, only in another sequence. What
was compiled opens as a graph that compiles to the same definition, so nothing is lost and nothing
new is said when a definition is opened again.
-/

namespace Workflow

namespace StepNode

variable {node : StepNode}

/-- The step that a field names. A field that is absent, null or empty names none. -/
def branch? (node : StepNode) (field : String) : Option String :=
  match node.field? field with
  | some (.string target) => if target = "" then none else some target
  | _ => none

/-- Where a step branches to: a condition to the steps that two of its fields name, the one for
true first. -/
def branches (node : StepNode) : List String :=
  if node.type = StepKind.condition.tag then ["trueStep", "falseStep"].filterMap node.branch?
  else []

/-- A field that names a step is compiled to its name, and to the empty text if it names none. -/
theorem Fills.branch?_eq {field target : String}
    (fills : node.Fills (.stepReference field) (field, .string target)) :
    node.branch? field = if target = "" then none else some target := by
  obtain ⟨-, accepted⟩ := fills
  rw [FieldSpec.accepts_string_iff FieldKind.noConfusion] at accepted
  cases given : node.field? field with
  | none =>
      rw [value_of_absent given] at accepted
      cases accepted
      simp [branch?, given]
  | some value =>
      rw [value_of_given given] at accepted
      simp [branch?, given, accepted]

/-- What a compiled step refers to are the branches of the step that it is compiled from. -/
theorem references_eq_branches {step : Step} (compiled : node.compile = .ok step) :
    step.references = node.branches := by
  obtain ⟨typed, -, meets⟩ := compile_eq_ok_iff.mp compiled
  rw [branches, typed]
  obtain ⟨_, action⟩ := step
  cases action with
  | condition test trueStep falseStep =>
      obtain ⟨-, rest⟩ := List.forall₂_cons.mp meets
      obtain ⟨first, rest⟩ := List.forall₂_cons.mp rest
      obtain ⟨second, -⟩ := List.forall₂_cons.mp rest
      have onTrue := Fills.branch?_eq first
      have onFalse := Fills.branch?_eq second
      rw [Step.references, Action.references, Step.kind, Action.kind, if_pos rfl,
        List.filterMap_cons, onTrue, List.filterMap_cons, onFalse]
      by_cases noTrue : trueStep = "" <;> by_cases noFalse : falseStep = "" <;>
        simp [noTrue, noFalse]
  | _ => rfl

end StepNode

/-- What is said of compiled steps one by one can be said of the steps they are compiled from. -/
theorem Compiled.flatMap_eq {β : Type} {nodes : List StepNode} {steps : List Step}
    (h : Compiled nodes steps) {f : Step → List β} {g : StepNode → List β}
    (same : ∀ node step, node.compile = .ok step → f step = g node) :
    steps.flatMap f = nodes.flatMap g := by
  induction h with
  | nil => rfl
  | cons first _ ih => rw [List.flatMap_cons, List.flatMap_cons, same _ _ first, ih]

namespace Graph

variable {graph : Graph} {order : StepOrder} {name version : String}

/-- The branches of a step to steps that a graph does not have, in a workflow of a given name. -/
def strayBranches (graph : Graph) (workflow : String) (node : StepNode) : List DanglingBranch :=
  (node.branches.filter (· ∉ graph.names)).map fun target => ⟨workflow, node.name, target⟩

/-- The warnings are about the stray branches of the steps as they are emitted. -/
theorem compileWarnings_eq {definition : Definition}
    (compiles : graph.compile order name version = .ok definition) :
    ∃ places, graph.placesIn? order = some places ∧
      definition.steps.map Step.name = (graph.stepsAt places).map StepNode.name ∧
      graph.compileWarnings order name version =
        (graph.stepsAt places).flatMap (graph.strayBranches name) := by
  have names := compile_names_perm compiles
  rw [compileWarnings, compiles]
  obtain ⟨-, -, places, steps, placed, compiled, rfl⟩ := compile_eq_ok_iff.mp compiles
  refine ⟨places, placed, compiled.map_name, compiled.flatMap_eq fun node step done => ?_⟩
  obtain ⟨-, named, -⟩ := StepNode.compile_eq_ok_iff.mp done
  simp only [strayBranches, StepNode.references_eq_branches done, named, names.mem_iff]

/-- The warnings of an order are those of insertion order in another sequence. -/
theorem compileWarnings_perm {definition : Definition}
    (compiles : graph.compile order name version = .ok definition) :
    (graph.compileWarnings order name version).Perm
      (graph.steps.flatMap (graph.strayBranches name)) := by
  obtain ⟨places, placed, -, warned⟩ := compileWarnings_eq compiles
  rw [warned]
  exact (stepsAt_perm (placesIn?_perm placed)).flatMap_right _

/-- A definition that was compiled from a graph without blank names opens, from either text, as a
graph with the same definition and the same warnings. -/
theorem exists_same_warnings {definition : Definition} (formed : graph.WellFormed)
    (notBlank : ∀ step ∈ graph.names, isBlank step = false)
    (compiles : graph.compile order name version = .ok definition) :
    ∀ text ∈ [definition.text, definition.prettyText], ∃ opened,
      ofDefinitionText text = .ok opened ∧
        opened.compile .insertion name version = .ok definition ∧
        opened.compileWarnings .insertion name version =
          graph.compileWarnings order name version := by
  obtain ⟨opened, opens, again⟩ := exists_recompile formed notBlank compiles
  intro text listed
  refine ⟨opened, ?_, again .insertion, ?_⟩
  · rcases List.mem_pair.mp listed with rfl | rfl
    · exact opens
    · rw [ofDefinitionText_prettyText, ← ofDefinitionText_text]
      exact opens
  · rw [compileWarnings, compileWarnings, again, compiles]

/-- The warnings of a compilation are exactly the stray branches of the steps, in the order in
which these are emitted, and a compilation that fails gives none. Both orders give the same
warnings, each as often, where both succeed. What was compiled gives the same warnings in the same
sequence when it is opened and compiled again, provided that no step has a blank name. -/
theorem warnings_are_stray_branches (reachable : graph.Reachable) (order : StepOrder)
    (name version : String) :
    (∀ error, graph.compile order name version = .error error →
      graph.compileWarnings order name version = []) ∧
    (∀ definition, graph.compile order name version = .ok definition → ∃ places,
      graph.Emits order places ∧
        definition.steps.map Step.name = (graph.stepsAt places).map StepNode.name ∧
        graph.compileWarnings order name version =
          (graph.stepsAt places).flatMap (graph.strayBranches name)) ∧
    (∀ listed sorted, graph.compile .insertion name version = .ok listed →
      graph.compile .edges name version = .ok sorted →
      (graph.compileWarnings .edges name version).Perm
        (graph.compileWarnings .insertion name version)) ∧
    ∀ definition, (∀ step ∈ graph.names, isBlank step = false) →
      graph.compile order name version = .ok definition →
      ∀ text ∈ [definition.text, definition.prettyText], ∃ opened,
        ofDefinitionText text = .ok opened ∧
          opened.compile .insertion name version = .ok definition ∧
          opened.compileWarnings .insertion name version =
            graph.compileWarnings order name version := by
  have formed := reachable.wellFormed
  refine ⟨fun error failed => ?_, fun definition compiles => ?_,
    fun listed sorted first second => ?_,
    fun definition notBlank compiles => exists_same_warnings formed notBlank compiles⟩
  · rw [compileWarnings, failed]
  · obtain ⟨places, placed, warned⟩ := compileWarnings_eq compiles
    exact ⟨places, (placesIn?_eq_some_iff formed).mp placed, warned⟩
  · exact (compileWarnings_perm second).trans (compileWarnings_perm first).symm

/-- Three conditions, the first of which is emitted last. -/
def crossroads : Graph where
  steps := [
    ⟨"check", "condition", "check",
      .ofMembers [("trueStep", .string "gone"), ("falseStep", .string "gone")], .origin⟩,
    ⟨"again", "condition", "again",
      .ofMembers [("trueStep", .string "again"), ("falseStep", .null)], .origin⟩,
    ⟨"last", "condition", "last",
      .ofMembers [("falseStep", .string "nowhere"), ("trueStep", .string "check")], .origin⟩]
  edges := [⟨"last-check", "last", "check"⟩]

/-- The first condition is warned of twice, once for each of its branches, and the second one,
which branches to itself, not at all. -/
theorem warnings_are_stray_branches_crossroads :
    crossroads.Reachable ∧
      (∃ places, crossroads.Emits .edges places ∧ crossroads.compileWarnings .edges "order" "1" =
        (crossroads.stepsAt places).flatMap (crossroads.strayBranches "order")) ∧
      crossroads.compileWarnings .edges "order" "1" = [⟨"order", "last", "nowhere"⟩,
        ⟨"order", "check", "gone"⟩, ⟨"order", "check", "gone"⟩] ∧
      (crossroads.compileWarnings .edges "order" "1").Perm
        (crossroads.compileWarnings .insertion "order" "1") ∧
      ∃ definition opened, crossroads.compile .edges "order" "1" = .ok definition ∧
        ofDefinitionText definition.text = .ok opened ∧
        opened.compileWarnings .insertion "order" "1" =
          crossroads.compileWarnings .edges "order" "1" := by
  have built : Graph.ofParts crossroads.steps crossroads.edges = .ok crossroads := by rfl
  have reachable : crossroads.Reachable := .ofParts built
  obtain ⟨listed, inserted⟩ := Except.exists_of_isOk
    (by decide +kernel : (crossroads.compile .insertion "order" "1").isOk = true)
  obtain ⟨sorted, followed⟩ := Except.exists_of_isOk
    (by decide +kernel : (crossroads.compile .edges "order" "1").isOk = true)
  obtain ⟨-, warned, alike, reopened⟩ :=
    warnings_are_stray_branches reachable .edges "order" "1"
  obtain ⟨places, emitted, -, told⟩ := warned sorted followed
  obtain ⟨opened, opens, -, again⟩ :=
    reopened sorted (by decide) followed sorted.text List.mem_cons_self
  exact ⟨reachable, ⟨places, emitted, told⟩, by decide +kernel,
    alike listed sorted inserted followed, sorted, opened, followed, opens, again⟩

end Graph

end Workflow
