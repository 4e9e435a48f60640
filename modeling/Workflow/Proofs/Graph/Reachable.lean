import Workflow.Graph.Text
import Workflow.Proofs.Definition.Load

/-!
# The graphs there are

A graph comes from nothing, from parts, from a file or from a definition, and is then
edited any number of times. These graphs are the reachable ones, and a statement about
every graph is a statement about them: all of them are well formed.
-/

namespace Workflow

namespace Graph

/-- The graphs that can be built and edited. -/
inductive Reachable : Graph → Prop
  | empty : Reachable .empty
  | ofParts {steps : List StepNode} {edges : List Edge} {graph : Graph} :
      Graph.ofParts steps edges = .ok graph → Reachable graph
  | ofText {text : String} {graph : Graph} : Graph.ofText text = .ok graph → Reachable graph
  | ofJson {value : Json} {graph : Graph} : Graph.ofJson value = .ok graph → Reachable graph
  | ofDefinitionText {text : String} {graph : Graph} :
      Graph.ofDefinitionText text = .ok graph → Reachable graph
  | perform {graph : Graph} (edit : Edit) : Reachable graph → Reachable (graph.perform edit)

/-! ## Graphs from parts -/

theorem firstRepeated_eq_none_iff {seen names : List String} :
    firstRepeated seen names = none ↔ names.Nodup ∧ ∀ name ∈ names, name ∉ seen := by
  induction names generalizing seen with
  | nil => simp [firstRepeated]
  | cons name rest ih =>
      unfold firstRepeated
      by_cases again : name ∈ seen
      · simp [again]
      · rw [if_neg again, ih, List.nodup_cons]
        constructor
        · rintro ⟨unique, fresh⟩
          refine ⟨⟨fun member => fresh name member List.mem_cons_self, unique⟩, ?_⟩
          intro other member
          rcases List.mem_cons.mp member with rfl | member
          · exact again
          · exact fun old => fresh other member (List.mem_cons_of_mem _ old)
        · rintro ⟨⟨once, unique⟩, fresh⟩
          refine ⟨unique, fun other member old => ?_⟩
          rcases List.mem_cons.mp old with rfl | old
          · exact once member
          · exact fresh other (List.mem_cons_of_mem _ member) old

theorem firstDefect_eq_none_iff {names seen : List String} {edges : List Edge} :
    firstDefect names seen edges = none ↔
      (edges.map Edge.id).Nodup ∧ (∀ edge ∈ edges, edge.id ∉ seen) ∧
        ∀ edge ∈ edges, edge.source ∈ names ∧ edge.target ∈ names := by
  induction edges generalizing seen with
  | nil => simp [firstDefect]
  | cons edge rest ih =>
      unfold firstDefect
      by_cases again : edge.id ∈ seen
      · simp [again]
      · by_cases hs : edge.source ∈ names
        · by_cases ht : edge.target ∈ names
          · rw [if_neg again, if_neg (not_not.mpr hs), if_neg (not_not.mpr ht), ih,
              List.map_cons, List.nodup_cons]
            constructor
            · rintro ⟨unique, fresh, ends⟩
              refine ⟨⟨?_, unique⟩, ?_, ?_⟩
              · rw [List.mem_map]
                rintro ⟨other, member, same⟩
                exact fresh other member (same ▸ List.mem_cons_self)
              · intro other member
                rcases List.mem_cons.mp member with rfl | member
                · exact again
                · exact fun old => fresh other member (List.mem_cons_of_mem _ old)
              · intro other member
                rcases List.mem_cons.mp member with rfl | member
                · exact ⟨hs, ht⟩
                · exact ends other member
            · rintro ⟨⟨once, unique⟩, fresh, ends⟩
              refine ⟨unique, fun other member old => ?_, fun other member =>
                ends other (List.mem_cons_of_mem _ member)⟩
              rcases List.mem_cons.mp old with same | old
              · exact once (List.mem_map.mpr ⟨other, member, same⟩)
              · exact fresh other (List.mem_cons_of_mem _ member) old
          · simp [again, hs, ht]
        · simp [again, hs]

/-- The two scans together look for everything that a well-formed graph may not have. -/
theorem wellFormed_iff_no_defect {steps : List StepNode} {edges : List Edge} :
    (⟨steps, edges, 0⟩ : Graph).WellFormed ↔
      firstRepeated [] (steps.map StepNode.name) = none ∧
        firstDefect (steps.map StepNode.name) [] edges = none := by
  rw [firstRepeated_eq_none_iff, firstDefect_eq_none_iff]
  constructor
  · intro formed
    exact ⟨⟨formed.names_nodup, by simp⟩, formed.edgeIds_nodup, by simp,
      fun edge member => ⟨formed.source_mem edge member, formed.target_mem edge member⟩⟩
  · rintro ⟨⟨unique, -⟩, ids, -, ends⟩
    exact ⟨unique, ids, fun edge member => (ends edge member).1,
      fun edge member => (ends edge member).2⟩

/-- Parts form a graph exactly when the graph of these parts is well formed. -/
theorem ofParts_eq_ok_iff {steps : List StepNode} {edges : List Edge} {graph : Graph} :
    ofParts steps edges = .ok graph ↔ (⟨steps, edges, 0⟩ : Graph).WellFormed ∧
      ⟨steps, edges, 0⟩ = graph := by
  rw [wellFormed_iff_no_defect]
  cases repeated : firstRepeated [] (steps.map StepNode.name) with
  | some name => simp [ofParts, repeated]
  | none =>
      cases defect : firstDefect (steps.map StepNode.name) [] edges with
      | some error => simp [ofParts, repeated, defect]
      | none => simp [ofParts, repeated, defect]

/-- A file is read when its text starts with the parts of a graph and ends with them. -/
theorem ofText_eq_ok_iff {text : String} {graph : Graph} :
    ofText text = .ok graph ↔ ∃ tree rest steps edges,
      ParseTree.readFirst text = some (tree, rest) ∧
        partsOfTree? tree = some (steps, edges) ∧ Graph.ofParts steps edges = .ok graph ∧
          (ParseTree.skipSpace rest).isEmpty = true := by
  rw [ofText]
  cases first : ParseTree.readFirst text with
  | none => simp
  | some read =>
      obtain ⟨tree, rest⟩ := read
      cases parts : partsOfTree? tree with
      | none => simp [parts]
      | some both =>
          obtain ⟨steps, edges⟩ := both
          cases built : Graph.ofParts steps edges with
          | error defect => simp [parts, built]
          | ok found =>
              by_cases ended : ParseTree.skipSpace rest = [] <;> simp [parts, built, ended]

theorem ofDefinitionText_eq_ok_iff {text : String} {graph : Graph} :
    ofDefinitionText text = .ok graph ↔
      ∃ value, Json.ofText? text = some value ∧ Graph.ofJson value = .ok graph := by
  rw [ofDefinitionText]
  cases Json.ofText? text <;> simp

/-- Every graph that can be built and edited is well formed. -/
theorem Reachable.wellFormed {graph : Graph} (h : graph.Reachable) : graph.WellFormed := by
  induction h with
  | empty => exact .empty
  | ofParts built =>
      obtain ⟨formed, rfl⟩ := ofParts_eq_ok_iff.mp built
      exact formed
  | ofText read =>
      obtain ⟨_, _, _, _, -, -, built, -⟩ := ofText_eq_ok_iff.mp read
      obtain ⟨formed, rfl⟩ := ofParts_eq_ok_iff.mp built
      exact formed
  | ofJson loaded => exact ofJson_wellFormed loaded
  | ofDefinitionText loaded =>
      obtain ⟨_, -, loaded⟩ := ofDefinitionText_eq_ok_iff.mp loaded
      exact ofJson_wellFormed loaded
  | perform edit _ formed => exact formed.perform edit

end Graph

end Workflow
