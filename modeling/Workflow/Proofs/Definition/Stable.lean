import Workflow.Proofs.Definition.Reload

/-!
# Definitions that stay as they are

A definition can be written by hand, and its type allows more than the compiler ever
writes: names that are blank or stand twice, and numbers up to 64 bits without a sign. The
ones that come back unchanged when they are opened and compiled are told apart here by a
condition on the definition alone. The limits of numbers are sharp. A number above the
greatest field value may still be read, because rounding brings it back to that value,
but then it is no longer the same number.
-/

namespace Workflow

namespace Action

/-- The numbers of an action are ones that its fields can have. -/
def InRange : Action → Prop
  | .dataProcessing _ batchSize => 1 ≤ batchSize.toNat ∧ (batchSize.toNat : Int) ≤ maxFieldValue
  | .delay delayMs => (delayMs.toNat : Int) ≤ maxFieldValue
  | _ => True

/-- An action is settled when its numbers are in range; text always is. -/
theorem settled_iff {action : Action} : action.Settled ↔ action.InRange := by
  constructor
  · intro settled
    cases action with
    | dataProcessing processingType batchSize =>
        obtain ⟨-, rest⟩ := List.forall₂_cons.mp settled
        obtain ⟨⟨-, accepted⟩, -⟩ := List.forall₂_cons.mp rest
        dsimp only at accepted
        obtain ⟨small, atLeast⟩ :=
          FieldSpec.readUnsigned_bounds ((FieldSpec.accepts_unsigned_iff rfl).mp accepted)
        have positive := atLeast 1 rfl
        exact ⟨by omega, small⟩
    | delay delayMs =>
        obtain ⟨⟨-, accepted⟩, -⟩ := List.forall₂_cons.mp settled
        dsimp only at accepted
        exact (FieldSpec.readUnsigned_bounds ((FieldSpec.accepts_unsigned_iff rfl).mp accepted)).1
    | _ => trivial
  · intro inRange
    cases action with
    | serviceCall | scheduleTask | notification | graphqlCall =>
        exact .cons ⟨rfl, .text _ (by decide)⟩ (.cons ⟨rfl, .text _ (by decide)⟩ .nil)
    | condition =>
        exact .cons ⟨rfl, .text _ (by decide)⟩ (.cons ⟨rfl, .text _ (by decide)⟩
          (.cons ⟨rfl, .text _ (by decide)⟩ .nil))
    | externalEvent => exact .cons ⟨rfl, .text _ (by decide)⟩ .nil
    | dataProcessing processingType batchSize =>
        obtain ⟨positive, small⟩ := inRange
        refine .cons ⟨rfl, .text _ (by decide)⟩ (.cons ⟨rfl, ?_⟩ .nil)
        dsimp only
        refine .whole rfl (FieldSpec.readUnsigned_unsigned small fun min least => ?_)
        cases least
        omega
    | delay delayMs =>
        refine .cons ⟨rfl, ?_⟩ .nil
        dsimp only
        refine .whole rfl (FieldSpec.readUnsigned_unsigned inRange fun min least => ?_)
        cases least
        omega

end Action

namespace Definition

/-- A definition as the compiler writes it. Its name, its version and the names of its steps
are not blank, no two steps have the same name, and all numbers are in range. -/
structure Proper (definition : Definition) : Prop where
  name_not_blank : isBlank definition.name = false
  version_not_blank : isBlank definition.version = false
  steps_not_blank : ∀ step ∈ definition.steps, isBlank step.name = false
  steps_nodup : (definition.steps.map Step.name).Nodup
  in_range : ∀ step ∈ definition.steps, step.action.InRange

end Definition

namespace Graph

variable {definition : Definition}

/-- What the compiler writes is proper if no step of the graph has a blank name: names differ
in a graph, and the range of each field is kept. -/
theorem proper_of_compile {graph : Graph} {order : StepOrder} {name version : String}
    (formed : graph.WellFormed) (notBlank : ∀ step ∈ graph.names, isBlank step = false)
    (compiles : graph.compile order name version = .ok definition) : definition.Proper := by
  have names := compile_names_perm compiles
  obtain ⟨named, versioned, _, steps, -, compiled, rfl⟩ := compile_eq_ok_iff.mp compiles
  refine ⟨named, versioned, ?_, names.nodup_iff.mpr formed.names_nodup, ?_⟩
  · intro step member
    exact notBlank _ (names.mem_iff.mp (List.mem_map_of_mem member))
  · intro step member
    exact Action.settled_iff.mp (settled_of_compiled compiled step member)

/-- A proper definition opens, and what it opens as compiles to it. -/
theorem exists_compile_of_proper (proper : definition.Proper) :
    ∃ loaded, ofDefinition definition = .ok loaded ∧
      loaded.compile .insertion definition.name definition.version = .ok definition := by
  obtain ⟨loaded, opens⟩ := exists_ofDefinition proper.steps_not_blank proper.steps_nodup
  have settled : ∀ step ∈ definition.steps, step.action.Settled :=
    fun step member => Action.settled_iff.mpr (proper.in_range step member)
  have compiled := (ofDefinition_opened opens).compiled proper.steps_not_blank settled
  refine ⟨loaded, opens, compile_eq_ok_iff.mpr ?_⟩
  refine ⟨proper.name_not_blank, proper.version_not_blank, _, definition.steps, rfl, ?_, rfl⟩
  rwa [stepsAt_range]

/-- Exactly the proper definitions are what they were after they have been opened and
compiled again under their own name and version. -/
theorem compile_ofDefinition_iff (definition : Definition) :
    (∃ loaded, ofDefinition definition = .ok loaded ∧
        loaded.compile .insertion definition.name definition.version = .ok definition) ↔
      definition.Proper := by
  constructor
  · rintro ⟨loaded, opens, compiles⟩
    have named := (ofDefinition_opened opens).not_blank
    exact proper_of_compile (ofJson_wellFormed opens) (List.forall_mem_map.mpr named) compiles
  · exact exists_compile_of_proper

/-- The double nearest to a number just above the range stands for the greatest one in it. -/
example : (Number.integer 0x8000000000000001 (by decide)).fieldValue? = some maxFieldValue := by
  decide +kernel

end Graph

end Workflow
