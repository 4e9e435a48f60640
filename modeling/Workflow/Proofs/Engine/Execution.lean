import Workflow.Proofs.Definition.Reload
import Workflow.Proofs.Engine.Local

/-!
# Running a definition

An engine knows nothing of the types of steps. It walks through the list of steps that it
finds in the text of a record, and what it needs of a step is a name. The text of a
definition has them all, so a record with such a text is always run to its end.
-/

namespace Workflow

namespace LocalEngine

/-- A walk through the steps of a definition ends at the last of them. -/
theorem walk_steps (current : Option String) (steps : List Step) :
    walk current (Json.sortItems (steps.map Step.toJson)) =
      .ok ((steps.getLast?.map Step.name).or current) := by
  induction steps generalizing current with
  | nil => rfl
  | cons step rest ih =>
      have named : step.toJson.sortKeys.member? "name" = some (.string step.name) := by
        rw [Step.sortKeys_toJson, Json.member?, Fields.lookup_sortEntries step.keys_nodup]
        rfl
      rw [List.map_cons, Json.sortItems, walk, named]
      dsimp only
      rw [ih, List.getLast?_cons]
      cases rest.getLast? <;> rfl

theorem runContent_text (definition : Definition) :
    runContent (some definition.text) = .ok (definition.steps.getLast?.map Step.name) := by
  have listed : definition.toJson.sortKeys.member? "steps" =
      some (.array (Json.sortItems (definition.steps.map Step.toJson))) := by
    rw [Definition.toJson, Json.sortKeys, Json.member?,
      Fields.lookup_sortEntries (by simp [Json.sortMembers])]
    rfl
  rw [runContent, Definition.text, Json.ofText?_compact definition.legible definition.within]
  dsimp only
  rw [listed]
  dsimp only
  rw [walk_steps, Option.or_none]

/-- A run of a definition that got to its end. -/
structure Completes (run : Run) (record : Record) (definition : Definition) : Prop where
  definitionId : run.definitionId = record.id
  status : run.status = .completed
  errorMessage : run.errorMessage = none
  currentStep : run.currentStep = definition.steps.getLast?.map Step.name

/-- A record with the text of a definition is run to its end. -/
theorem execute_of_text {engine : LocalEngine} {name : String} {record : Record}
    {definition : Definition} (clock : Clock) (found : engine.named? name = some record)
    (content : record.content = some definition.text) :
    ∃ run, Completes run record definition ∧ engine.execute clock name = .ok { engine with
      runs := engine.runs ++ [run], lastRunId := engine.lastRunId + 1 } := by
  have outcome := runContent_text definition
  rw [← content] at outcome
  rw [execute, found]
  dsimp only
  rw [outcome]
  exact ⟨_, ⟨rfl, rfl, rfl, rfl⟩, rfl⟩

end LocalEngine

end Workflow
