import Workflow.Definition.Compile
import Workflow.Proofs.Step.Contract

/-!
# When a graph compiles

A graph has a definition when neither the name nor the version is blank, its steps can be
put in order, and each of them compiles. The definition lists the compiled steps in that
order. A compiled step keeps the name of the step it is compiled from.
-/

namespace Workflow

/-- The compiled forms of steps, one for one. -/
def Compiled (nodes : List StepNode) (steps : List Step) : Prop :=
  List.Forall₂ (fun node step => node.compile = .ok step) nodes steps

theorem Compiled.map_name {nodes : List StepNode} {steps : List Step}
    (h : Compiled nodes steps) : steps.map Step.name = nodes.map StepNode.name := by
  induction h with
  | nil => rfl
  | cons first _ ih =>
      rw [List.map_cons, List.map_cons, ih, (StepNode.compile_eq_ok_iff.mp first).2.1]

/-- The compiled form of a step is unique, so that of a list is. -/
theorem Compiled.unique {nodes : List StepNode} {steps others : List Step}
    (h : Compiled nodes steps) (other : Compiled nodes others) : steps = others := by
  induction h generalizing others with
  | nil => exact (List.forall₂_nil_left_iff.mp other).symm
  | cons first _ ih =>
      cases other with
      | cons again rest =>
          cases first.symm.trans again
          rw [ih rest]

namespace Graph

theorem compile_eq_ok_iff {graph : Graph} {order : StepOrder} {name version : String}
    {definition : Definition} :
    graph.compile order name version = .ok definition ↔
      isBlank name = false ∧ isBlank version = false ∧
        ∃ places steps, graph.placesIn? order = some places ∧
          Compiled (graph.stepsAt places) steps ∧ ⟨name, version, steps⟩ = definition := by
  unfold compile Compiled
  by_cases blankName : isBlank name = true
  · simp [blankName]
  · by_cases blankVersion : isBlank version = true
    · rw [if_neg blankName, if_pos blankVersion]
      simp [blankVersion]
    · rw [if_neg blankName, if_neg blankVersion]
      cases graph.placesIn? order with
      | none => simp
      | some places =>
          simp only [Except.map_eq_ok_iff, Except.mapM_eq_ok_iff, Option.some.injEq]
          simp [blankName, blankVersion]

/-- Under a name and a version that are not blank and with steps that compile in some
order, only a cycle is left as a reason to fail. -/
theorem compile_eq_error_iff_of_compiled {graph : Graph} {order : StepOrder}
    {name version : String} (named : isBlank name = false) (versioned : isBlank version = false)
    (compiles : ∀ places, graph.placesIn? order = some places →
      ∃ steps, Compiled (graph.stepsAt places) steps) {error : CompileError} :
    graph.compile order name version = .error error ↔
      graph.placesIn? order = none ∧ error = .cycle := by
  cases placed : graph.placesIn? order with
  | none => simp [compile, named, versioned, placed, eq_comm]
  | some places =>
      obtain ⟨steps, compiled⟩ := compiles places placed
      have done := compile_eq_ok_iff.mpr ⟨named, versioned, places, steps, placed, compiled, rfl⟩
      simp [done]

/-- Insertion order takes the steps as they are. -/
@[simp] theorem stepsAt_range (graph : Graph) :
    graph.stepsAt (List.range graph.size) = graph.steps := by
  unfold stepsAt size
  induction graph.steps with
  | nil => rfl
  | cons node rest ih =>
      rw [List.length_cons, List.range_succ_eq_map, List.filterMap_cons_some (by rfl),
        List.filterMap_map]
      simpa [Function.comp_def] using ih

theorem stepsAt_perm {graph : Graph} {places : List Nat}
    (all : places.Perm (List.range graph.size)) : (graph.stepsAt places).Perm graph.steps := by
  have := all.filterMap fun place => graph.steps[place]?
  rwa [← stepsAt_range graph]

theorem map_name_stepsAt (graph : Graph) (places : List Nat) :
    (graph.stepsAt places).map StepNode.name = places.filterMap (graph.names[·]?) := by
  simp [stepsAt, names, List.map_filterMap]

end Graph

end Workflow
