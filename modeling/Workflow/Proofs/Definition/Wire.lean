import Workflow.Definition.Basic
import Workflow.Proofs.Json.Meaning
import Workflow.Proofs.Step.Contract

/-!
# Definitions on the wire

A definition is decoded from either of its texts as it was encoded, so its text
determines it.
-/

namespace Workflow

open ParseTree (ofJson ofItems ofMembers)

/-- A member of an action is text or a whole number. -/
theorem Action.members_cases (action : Action) : ∀ entry ∈ action.members,
    (∃ text, entry.2 = .string text) ∨ ∃ n, entry.2 = Json.integer n := by
  cases action <;> simp [members, unsigned]

/-! ## The values that are written -/

theorem Step.legible (step : Step) : step.toJson.Legible := by
  refine .object ?_
  intro entry member
  rcases List.mem_cons.mp member with rfl | member
  · exact .string _
  rcases List.mem_cons.mp member with rfl | member
  · exact .string _
  rcases step.action.members_cases entry member with ⟨text, same⟩ | ⟨n, same⟩
  · rw [same]
    exact .string text
  · rw [same]
    exact Json.legible_integer n

theorem Step.within (step : Step) {room : Nat} : step.toJson.Within (room + 1) := by
  refine .object ?_
  intro entry member
  rcases List.mem_cons.mp member with rfl | member
  · exact .string _
  rcases List.mem_cons.mp member with rfl | member
  · exact .string _
  rcases step.action.members_cases entry member with ⟨text, same⟩ | ⟨n, same⟩
  · rw [same]
    exact .string text
  · rw [same]
    exact Json.within_integer n

namespace Definition

theorem legible (definition : Definition) : definition.toJson.Legible := by
  refine .object ?_
  intro entry member
  simp only [List.mem_cons, List.not_mem_nil, or_false] at member
  rcases member with rfl | rfl | rfl
  · exact .string _
  · exact .string _
  · refine .array fun item member => ?_
    obtain ⟨step, -, rfl⟩ := List.mem_map.mp member
    exact step.legible

theorem within (definition : Definition) : definition.toJson.Within Json.maxDepth := by
  show definition.toJson.Within (124 + 3)
  refine .object ?_
  intro entry member
  simp only [List.mem_cons, List.not_mem_nil, or_false] at member
  rcases member with rfl | rfl | rfl
  · exact .string _
  · exact .string _
  · refine .array fun item member => ?_
    obtain ⟨step, -, rfl⟩ := List.mem_map.mp member
    exact step.within

end Definition

/-! ## Decoding -/

theorem ParseTree.uint64?_unsigned (n : UInt64) :
    (ofJson (Action.unsigned n)).uint64? = some n := by
  obtain ⟨inRange, written⟩ := Action.unsigned_eq n
  rw [written]
  simp [ofJson, ParseTree.uint64?, ParseTree.integer?]

/-- A step is decoded as it was encoded. -/
theorem Step.ofTree?_ofJson (room : Nat) (step : Step) :
    Step.ofTree? room (ofJson step.toJson) = some step := by
  obtain ⟨name, action⟩ := step
  cases action with
  | serviceCall service endpoint => rfl
  | scheduleTask task cron => rfl
  | notification notificationType message => rfl
  | condition test trueStep falseStep => rfl
  | graphqlCall service query => rfl
  | externalEvent eventType => rfl
  | delay delayMs =>
      have decoded : Step.ofTree? room (ofJson (Step.toJson ⟨name, .delay delayMs⟩)) =
          (ofJson (Action.unsigned delayMs)).uint64?.map fun n => ⟨name, .delay n⟩ := by
        obtain ⟨inRange, written⟩ := Action.unsigned_eq delayMs
        simp only [Step.toJson, Action.members, written]
        rfl
      rw [decoded, ParseTree.uint64?_unsigned]
      rfl
  | dataProcessing processingType batchSize =>
      have decoded : Step.ofTree? room
          (ofJson (Step.toJson ⟨name, .dataProcessing processingType batchSize⟩)) =
          (ofJson (Action.unsigned batchSize)).uint64?.map
            fun n => ⟨name, .dataProcessing processingType n⟩ := by
        obtain ⟨inRange, written⟩ := Action.unsigned_eq batchSize
        simp only [Step.toJson, Action.members, written]
        rfl
      rw [decoded, ParseTree.uint64?_unsigned]
      rfl

namespace Definition

theorem ofTree?_ofJson (definition : Definition) :
    ofTree? (ofJson definition.toJson) = some definition := by
  obtain ⟨name, version, steps⟩ := definition
  have steps_back : ParseTree.list? (Step.ofTree? (Json.maxDepth - 3))
      (ofJson (.array (steps.map Step.toJson))) = some steps :=
    ParseTree.list?_ofJson fun step _ => step.ofTree?_ofJson _
  have decoded : ofTree? (ofJson (toJson ⟨name, version, steps⟩)) =
      (ParseTree.list? (Step.ofTree? (Json.maxDepth - 3))
        (ofJson (.array (steps.map Step.toJson)))).bind
          fun steps => some ⟨name, version, steps⟩ := by
    rfl
  rw [decoded, steps_back]
  rfl

/-- A definition is decoded from its compact text. -/
theorem ofText?_text (definition : Definition) :
    ofText? definition.text = some definition := by
  rw [ofText?, text, definition.legible.read_compact]
  exact definition.ofTree?_ofJson

theorem ofText?_prettyText (definition : Definition) :
    ofText? definition.prettyText = some definition := by
  rw [ofText?, prettyText, definition.legible.read_pretty]
  exact definition.ofTree?_ofJson

/-- Different definitions have different texts. -/
theorem text_injective {a b : Definition} (h : a.text = b.text) : a = b := by
  have := a.ofText?_text
  rw [h, ofText?_text] at this
  exact (Option.some.inj this).symm

end Definition

end Workflow
