import Workflow.Proofs.Step.Acceptance
import Workflow.Step.Text

/-!
# The text of a step and the registry

What belongs to a kind of step is written down three times: the registry lists its fields, the
compiler reads fields by name, and a compiled step has members. The three agree. The members that
are written for a step are the fields that the registry lists, in its order, each with the value
that the step has for it or with its default.

Compiling can name five defects of a field. Two of them would be faults of the tables, not of a
step: that the registry has no field of the name that is read, and that a number which passed the
checks does not fit where it is put. They do not occur.
-/

namespace Workflow

namespace FieldSpec

variable {spec : FieldSpec} {value : Json}

/-- A number that is read for a field is written as the whole number that it was read as. -/
theorem exists_readWhole_of_readUnsigned {n : UInt64} (read : spec.readUnsigned value = .ok n) :
    ∃ whole inRange, spec.readWhole value = .ok whole ∧
      Action.unsigned n = .number (.integer whole inRange) := by
  obtain ⟨whole, kept, natural, same⟩ := readUnsigned_eq_ok_iff.mp read
  obtain ⟨⟨_, _, stands⟩, -⟩ := readWhole_eq_ok_iff.mp kept
  have value_eq : (n.toNat : Int) = whole :=
    same ▸ toNat_ofNat_toNat natural (fieldValue?_le stands)
  obtain ⟨inRange, written⟩ := Action.unsigned_eq n
  simp only [value_eq] at written
  exact ⟨whole, value_eq ▸ inRange, kept, written⟩

end FieldSpec

namespace StepNode

variable {node : StepNode} {spec : FieldSpec}

/-- What is written for a field of a step: the default if the step has no value for it, a whole
number as it is read, and text as it is. -/
inductive Writes (node : StepNode) (spec : FieldSpec) : Json → Prop
  | default : node.field? spec.name = none → Writes node spec spec.default.toJson
  | whole {value : Json} {n : Int} {inRange} : node.field? spec.name = some value →
      spec.kind = .integer → spec.readWhole value = .ok n →
      Writes node spec (.number (.integer n inRange))
  | text {value : Json} : node.field? spec.name = some value → spec.kind ≠ .integer →
      Writes node spec value

theorem Fills.writes {member : String × Json} (fills : node.Fills spec member)
    (sound : spec.Sound) : node.Writes spec member.2 := by
  obtain ⟨-, accepted⟩ := fills
  generalize member.2 = setting at accepted ⊢
  cases given : node.field? spec.name with
  | none =>
      rw [value_of_absent given] at accepted
      rw [accepted.unique sound.default_accepted]
      exact .default given
  | some value =>
      rw [value_of_given given] at accepted
      cases accepted with
      | text text isText => exact .text given isText
      | whole isWhole read =>
          obtain ⟨n, inRange, kept, written⟩ := FieldSpec.exists_readWhole_of_readUnsigned read
          rw [written]
          exact .whole given isWhole kept

/-- A step, its contract and its text agree. What a step compiles to is an object with its name,
the tag of its type and then the fields that the registry lists for that type, in this order, each
with the value that it is to have. A step of a known type all of whose fields are absent compiles,
and no step fails because the registry does not have a field that is read, or because a number that
passed its checks does not fit. -/
theorem compile_agrees_with_registry (node : StepNode) :
    (∀ step, node.compile = .ok step → ∃ kind settings, node.kind? = some kind ∧
      step.kind = kind ∧
      step.toJson = .object
        (("name", .string node.name) :: ("type", .string node.type) :: settings) ∧
      List.Forall₂ (fun spec setting => setting.1 = spec.name ∧ node.Writes spec setting.2)
        kind.descriptor.fields settings) ∧
    (∀ kind, node.kind? = some kind →
      (∀ spec ∈ kind.descriptor.fields, node.field? spec.name = none) →
      ∃ step, node.compile = .ok step) ∧
    ∀ step field defect, node.compile = .error (.invalidField step field defect) →
      (∀ kind, defect ≠ .notAField kind) ∧ ∀ n, defect ≠ .outOfRange n := by
  refine ⟨?_, ?_, ?_⟩
  · intro step compiled
    obtain ⟨typed, named, meets⟩ := compile_eq_ok_iff.mp compiled
    refine ⟨step.kind, step.action.members, StepKind.ofTag?_eq_some_iff.mpr typed, rfl, ?_, ?_⟩
    · rw [Step.toJson, named, typed]
    · have sound := (List.forall₂_and_left _ _).mpr ⟨FieldSpec.sound_of_mem, meets⟩
      exact sound.imp fun spec setting fills => ⟨fills.2.1, fills.2.writes fills.1⟩
  · intro kind known absent
    refine exists_compile_iff.mpr ⟨kind, StepKind.ofTag?_eq_some_iff.mp known, ?_⟩
    exact fun spec listed => fulfils_of_absent (absent spec listed)
  · intro step field defect failed
    cases compile_eq_error_iff.mp failed with
    | field _ _ _ _ _ refused => cases refused <;> simp

/-- A batch with a size that is written as a double, a type of processing that is null, and a
field of another kind of step. -/
def mixedBatch : StepNode where
  name := "batch"
  type := "data_processing"
  label := "batch"
  fields := .ofMembers [("batchSize", .number (.real (.ofNat 5 (by decide)))),
    ("processingType", .null), ("service", .string "other")]
  position := .origin

/-- The size is written as a whole number and the type of processing as its default; the field of
another kind is not written. -/
theorem compile_agrees_with_registry_mixedBatch :
    mixedBatch.compile = .ok ⟨"batch", .dataProcessing "DEFAULT" 5⟩ ∧
      ∃ settings, Step.toJson ⟨"batch", .dataProcessing "DEFAULT" 5⟩ = .object
          (("name", .string "batch") :: ("type", .string "data_processing") :: settings) ∧
        List.Forall₂ (fun spec setting => setting.1 = spec.name ∧ mixedBatch.Writes spec setting.2)
          StepKind.dataProcessing.descriptor.fields settings := by
  have compiled : mixedBatch.compile = .ok ⟨"batch", .dataProcessing "DEFAULT" 5⟩ := by
    decide +kernel
  obtain ⟨_, settings, -, rfl, written, fields⟩ :=
    (compile_agrees_with_registry mixedBatch).1 _ compiled
  exact ⟨compiled, settings, written, fields⟩

end StepNode

end Workflow
