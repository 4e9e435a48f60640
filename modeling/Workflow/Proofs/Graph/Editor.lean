import Workflow.Graph.Editor
import Workflow.Proofs.Graph.WellFormed

/-!
# Editing in place is all or nothing

Each operation in place makes all its checks before its first change. So it ends either
with the graph that the corresponding operation builds, or with that operation's error
and the graph that it found. Where several changes come after the checks, as when
properties are set one by one, none of them can fail.
-/

namespace Workflow

namespace Editing

variable {graph : Graph}

/-- The outcome of work that builds a new graph or fails and leaves the old one. -/
def allOrNothing {α : Type} (graph : Graph) :
    Except GraphError (α × Graph) → EStateM.Result GraphError Graph α
  | .ok (value, changed) => .ok value changed
  | .error error => .error error graph

/-! ## Statements -/

@[simp] theorem run_throw {α : Type} (error : GraphError) :
    (throw error : Editing α).run graph = .error error graph := rfl

/-- A result that is only handed on does not touch the graph. -/
@[simp] theorem run_map {α β : Type} (f : α → β) (work : Editing α) :
    (f <$> work).run graph = match work.run graph with
      | .ok value changed => .ok (f value) changed
      | .error error changed => .error error changed := by
  rw [← bind_pure_comp, EStateM.run_bind]
  cases work.run graph <;> rfl

@[simp] theorem run_demandStep (name : String) : (demandStep name).run graph =
    if name ∈ graph.names then .ok () graph else .error (.unknownStep name) graph := by
  by_cases known : name ∈ graph.names <;> simp [demandStep, known]

@[simp] theorem run_demandFree (name : String) : (demandFree name).run graph =
    if name ∈ graph.names then .error (.duplicateName name) graph else .ok () graph := by
  by_cases taken : name ∈ graph.names <;> simp [demandFree, taken]

/-- Properties that are set one by one are set as if at once. -/
theorem run_setProperties (place : Nat) (entries : List (String × Json)) :
    (setProperties place entries).run graph = .ok () { graph with
      steps := graph.steps.modify place fun node =>
        entries.foldl (fun node entry => node.setProperty entry.1 entry.2) node } := by
  induction entries generalizing graph with
  | nil =>
      have same : graph.steps.modify place (fun node => node) = graph.steps := List.modify_id ..
      simp [setProperties, same]
  | cons entry rest ih =>
      simp [setProperties, setProperty, ih, List.modify_modify_eq, Function.comp_def]

/-! ## Operations -/

theorem run_addStep (kind : StepKind) (label : String) (now : Int) :
    (addStep kind label now).run graph = allOrNothing graph (graph.addStep kind label now) := by
  by_cases taken : Graph.generatedName kind (graph.nextSuffix now) ∈ graph.names
  · simp [addStep, Graph.addStep, taken, allOrNothing]
  · simp [addStep, Graph.addStep, taken, allOrNothing, pushStep, Graph.size]

theorem run_insertStep (node : StepNode) : (insertStep node).run graph =
    allOrNothing graph ((graph.insertStep node).map fun changed => ((), changed)) := by
  by_cases taken : node.name ∈ graph.names
  · simp [insertStep, Graph.insertStep, taken, allOrNothing, Except.map]
  · simp [insertStep, Graph.insertStep, taken, allOrNothing, Except.map, pushStep]

theorem run_updateFields (name : String) (properties : Fields) :
    (updateFields name properties).run graph = allOrNothing graph
      ((graph.updateFields name properties).map fun changed => ((), changed)) := by
  cases found : graph.indexOf? name with
  | none => simp [updateFields, Graph.updateFields, found, allOrNothing, Except.map]
  | some place =>
      simp [updateFields, Graph.updateFields, found, allOrNothing, Except.map, run_setProperties,
        StepNode.setProperties]

theorem run_connect (source target : String) :
    (connect source target).run graph = allOrNothing graph (graph.connect source target) := by
  by_cases hs : source ∈ graph.names
  · by_cases ht : target ∈ graph.names
    · rw [Graph.connect_eq_ok hs ht]
      simp [connect, hs, ht, allOrNothing]
    · simp [connect, Graph.connect, hs, ht, allOrNothing]
  · simp [connect, Graph.connect, hs, allOrNothing]

theorem run_disconnect (id : String) :
    (disconnect id).run graph = allOrNothing graph (graph.disconnect id) := by
  cases place : graph.edges.findIdx? (fun edge => edge.id = id) with
  | none => simp [disconnect, Graph.disconnect, place, allOrNothing]
  | some i =>
      cases found : graph.edges.find? (·.id = id) with
      | none => simp [disconnect, Graph.disconnect, place, found, allOrNothing]
      | some edge => simp [disconnect, Graph.disconnect, place, found, allOrNothing]

theorem run_removeStep (name : String) :
    (removeStep name).run graph = allOrNothing graph (graph.removeStep name) := by
  cases place : graph.indexOf? name with
  | none => simp [removeStep, Graph.removeStep, place, allOrNothing]
  | some i =>
      cases found : graph.step? name with
      | none => simp [removeStep, Graph.removeStep, place, found, allOrNothing]
      | some node => simp [removeStep, Graph.removeStep, place, found, allOrNothing]

/-- What is made of the value of work is made of the value of the operation. -/
theorem run_bind_allOrNothing {α β : Type} {work : Editing α} {f : α → β}
    {result : Except GraphError (α × Graph)} (same : work.run graph = allOrNothing graph result) :
    (do return f (← work) : Editing β).run graph =
      allOrNothing graph (result.map fun (value, changed) => (f value, changed)) := by
  rw [EStateM.run_bind, same]
  cases result <;> rfl

/-- Every edit in place does what the operation does that builds a new graph; when that
fails it leaves the graph as it was. -/
theorem run_carryOut (graph : Graph) (edit : Edit) :
    (carryOut edit).run graph = allOrNothing graph (graph.apply edit) := by
  cases edit with
  | add kind label now => exact run_bind_allOrNothing (run_addStep kind label now)
  | insert node =>
      apply (run_bind_allOrNothing (run_insertStep node)).trans
      rw [Graph.apply]
      cases graph.insertStep node <;> rfl
  | update step properties =>
      apply (run_bind_allOrNothing (run_updateFields step properties)).trans
      rw [Graph.apply]
      cases graph.updateFields step properties <;> rfl
  | connect source target => exact run_bind_allOrNothing (run_connect source target)
  | disconnect edge => exact run_bind_allOrNothing (run_disconnect edge)
  | remove step => exact run_bind_allOrNothing (run_removeStep step)

/-- An edit in place that fails leaves the graph as it was. -/
theorem eq_of_run_eq_error {left : Graph} {edit : Edit} {error : GraphError}
    (h : (carryOut edit).run graph = .error error left) : left = graph := by
  rw [run_carryOut] at h
  cases applied : graph.apply edit with
  | ok answer =>
      rw [applied] at h
      cases h
  | error found =>
      rw [applied] at h
      cases h
      rfl

@[simp] theorem left_run_carryOut (graph : Graph) (edit : Edit) :
    left ((carryOut edit).run graph) = graph.perform edit := by
  rw [run_carryOut, Graph.perform]
  cases graph.apply edit <;> rfl

end Editing

end Workflow
