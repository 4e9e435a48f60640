import Workflow.Proofs.Number.Exact
import Workflow.Proofs.Step.Contract

/-!
# Which whole number a field gets

A whole-number field takes a number for its exact value, however the number is written, and
refuses it if that value is not whole or out of the bounds of the field. There is one stretch of
exceptions: the numbers from `2 ^ 63` up to `2 ^ 63 + 1024`, whose nearest double is `2 ^ 63`,
are above the greatest field value but are taken for it.
-/

namespace Workflow

/-- A double is taken for its exact value within the range of fields, and `2 ^ 63` for the
greatest value of that range. -/
theorem Binary64.fieldValue?_eq_some_iff {x : Binary64} {n : Int} : x.fieldValue? = some n ↔
    (x.exact = n ∧ minFieldValue ≤ n ∧ n ≤ maxFieldValue) ∨
      (x.exact = (2 ^ 63 : Int) ∧ n = maxFieldValue) := by
  rw [fieldValue?, Option.ite_none_right_eq_some, Option.some.injEq, exact_eq_intCast_iff,
    exact_eq_intCast_iff, minFieldValue, maxFieldValue]
  by_cases whole : x.isWhole = true
  · simp only [whole, true_and]
    omega
  · simp [whole]

namespace Number

/-- A number that is too great for a field, but whose nearest double is `2 ^ 63`. -/
def Overshoots (number : Number) : Prop :=
  2 ^ 63 ≤ number.exact ∧ number.exact ≤ 2 ^ 63 + 1024

/-- The only double that overshoots is `2 ^ 63`. -/
theorem overshoots_real_iff {x : Binary64} :
    (real x).Overshoots ↔ x.exact = (2 ^ 63 : Int) := by
  constructor
  · rintro ⟨least, most⟩
    obtain ⟨k, same⟩ := Binary64.exists_exact_eq least
    rw [exact, same] at least most
    have least : 2 ^ 63 ≤ k * 2048 := by exact_mod_cast least
    have most : k * 2048 ≤ 2 ^ 63 + 1024 := by exact_mod_cast most
    have only : k * 2048 = 2 ^ 63 := by omega
    rw [same, only]
    norm_num
  · intro same
    rw [Overshoots, exact, same]
    norm_num

/-- A number with 64 bits is rounded to a multiple of 2048. -/
theorem exact_toBinary64 {n : Nat} {inRange} (great : 2 ^ 63 ≤ n) :
    (integer n inRange).toBinary64.exact = (Binary64.divHalfEven n 2048 * 2048 : Nat) := by
  have bits : n.log2 = 63 := (Nat.log2_eq_iff (by omega)).mpr ⟨great, by omega⟩
  rw [toBinary64, Binary64.exact_ofInt_of_long bits]

/-- A number with 64 bits overshoots if the double that it is rounded to does. -/
theorem overshoots_integer_iff {n : Nat} {inRange} (great : 2 ^ 63 ≤ n) :
    (integer n inRange).Overshoots ↔
      (integer n inRange).toBinary64.exact = (2 ^ 63 : Int) := by
  have exactly : (integer n inRange).Overshoots ↔ n ≤ 2 ^ 63 + 1024 := by
    rw [Overshoots, exact]
    constructor
    · rintro ⟨-, most⟩
      exact_mod_cast most
    · intro most
      exact ⟨by exact_mod_cast great, by exact_mod_cast most⟩
  have halfway : Binary64.divHalfEven n 2048 * 2048 = 2 ^ 63 ↔ n ≤ 2 ^ 63 + 1024 := by
    unfold Binary64.divHalfEven
    simp only
    split
    · omega
    · split <;> omega
  rw [exactly, ← halfway, exact_toBinary64 great]
  norm_cast

/-- A number is taken for its exact value within the range of fields, or for the greatest value
of that range if it overshoots. -/
theorem fieldValue?_eq_some_iff {number : Number} {n : Int} : number.fieldValue? = some n ↔
    (number.exact = n ∧ minFieldValue ≤ n ∧ n ≤ maxFieldValue) ∨
      (number.Overshoots ∧ n = maxFieldValue) := by
  cases number with
  | real x => rw [fieldValue?, Binary64.fieldValue?_eq_some_iff, overshoots_real_iff, exact]
  | integer whole inRange =>
      rw [fieldValue?]
      unfold maxFieldValue
      by_cases small : whole ≤ 0x7fffffffffffffff
      · have inside : ¬ (integer whole inRange).Overshoots := by
          rintro ⟨least, -⟩
          rw [exact] at least
          have : 2 ^ 63 ≤ whole := by exact_mod_cast least
          omega
        rw [if_pos small, Option.some.injEq, exact, Int.cast_inj, minFieldValue]
        simp only [inside, false_and, or_false]
        omega
      · obtain ⟨m, rfl⟩ : ∃ m : Nat, whole = m := ⟨whole.toNat, by omega⟩
        have great : 2 ^ 63 ≤ m := by omega
        have rounded : ¬ ((integer m inRange).toBinary64.exact = n ∧ minFieldValue ≤ n ∧
            n ≤ 0x7fffffffffffffff) := by
          rintro ⟨same, -, most⟩
          have up := Binary64.div_le_divHalfEven m 2048
          rw [exact_toBinary64 great] at same
          have same : ((Binary64.divHalfEven m 2048 * 2048 : Nat) : Int) = n := by
            exact_mod_cast same
          omega
        have given : ¬ ((integer m inRange).exact = n ∧ minFieldValue ≤ n ∧
            n ≤ 0x7fffffffffffffff) := by
          rintro ⟨same, -, most⟩
          rw [exact, Int.cast_inj] at same
          omega
        rw [if_neg small, Binary64.fieldValue?_eq_some_iff, overshoots_integer_iff great]
        unfold maxFieldValue
        simp only [rounded, given, false_or]

/-- A number that a field takes whose least value is `min`. -/
def Fits (min : Int) (number : Number) : Prop :=
  (∃ n : Int, number.exact = n ∧ min ≤ n ∧ n ≤ maxFieldValue) ∨ number.Overshoots

end Number

/-! ## Fields -/

/-- The whole-number fields of steps, with their least values. -/
def StepKind.wholeFields : List (StepKind × String × Int) :=
  [(.dataProcessing, "batchSize", 1), (.delay, "delayMs", 0)]

theorem StepKind.wholeFields_cases {kind : StepKind} {field : String} {min : Int}
    (listed : (kind, field, min) ∈ wholeFields) :
    (kind = .dataProcessing ∧ field = "batchSize" ∧ min = 1) ∨
      (kind = .delay ∧ field = "delayMs" ∧ min = 0) := by
  simpa [wholeFields] using listed

/-- These are the whole-number fields of the registry. -/
theorem StepKind.mem_wholeFields_iff {kind : StepKind} {field : String} {min : Int} :
    (kind, field, min) ∈ wholeFields ↔ ∃ spec ∈ kind.fields, spec.kind = .integer ∧
      spec.name = field ∧ spec.constraints.min = some min := by
  cases kind <;>
    simp [wholeFields, fields, FieldSpec.text, FieldSpec.multiline, FieldSpec.integer,
      FieldSpec.expression, FieldSpec.stepReference, eq_comm]

namespace FieldSpec

variable {spec : FieldSpec} {min : Int} {number : Number}

/-- What a number is read as for a field with a least value. -/
theorem readUnsigned_number_iff (least : spec.constraints.min = some min) {n : UInt64} :
    spec.readUnsigned (.number number) = .ok n ↔
      number.fieldValue? = some (n.toNat : Int) ∧ min ≤ (n.toNat : Int) := by
  constructor
  · intro read
    obtain ⟨whole, kept, natural, rfl⟩ := readUnsigned_eq_ok_iff.mp read
    obtain ⟨⟨_, written, stands⟩, atLeast⟩ := readWhole_eq_ok_iff.mp kept
    cases written
    rw [toNat_ofNat_toNat natural (fieldValue?_le stands)]
    exact ⟨stands, atLeast min least⟩
  · rintro ⟨stands, atLeast⟩
    refine readUnsigned_eq_ok_iff.mpr ⟨n.toNat, ?_, Int.natCast_nonneg _, by simp⟩
    refine readWhole_eq_ok_iff.mpr ⟨⟨number, rfl, stands⟩, ?_⟩
    rw [least]
    rintro _ ⟨⟩
    exact atLeast

/-- A number is read for a field exactly if it fits. -/
theorem exists_readUnsigned_iff (least : spec.constraints.min = some min) (natural : 0 ≤ min)
    (small : min ≤ maxFieldValue) :
    (∃ n, spec.readUnsigned (.number number) = .ok n) ↔ number.Fits min := by
  simp only [readUnsigned_number_iff least, Number.fieldValue?_eq_some_iff]
  constructor
  · rintro ⟨n, ⟨same, -, most⟩ | ⟨overshoots, -⟩, atLeast⟩
    · exact .inl ⟨_, same, atLeast, most⟩
    · exact .inr overshoots
  · rintro (⟨n, same, atLeast, most⟩ | overshoots)
    · have within : minFieldValue ≤ n := by
        unfold minFieldValue
        omega
      refine ⟨UInt64.ofNat n.toNat, ?_⟩
      rw [toNat_ofNat_toNat (natural.trans atLeast) most]
      exact ⟨.inl ⟨same, within, most⟩, atLeast⟩
    · exact ⟨0x7fffffffffffffff, .inr ⟨overshoots, rfl⟩, small⟩

/-- The setting of a field that is not a whole number is text. -/
theorem Accepts.exists_text {value setting : Json} (accepted : spec.Accepts value setting)
    (isText : spec.kind ≠ .integer) : ∃ text, setting = .string text := by
  cases accepted with
  | text text _ => exact ⟨text, rfl⟩
  | whole isWhole _ => exact absurd isWhole isText

end FieldSpec

/-! ## Steps -/

namespace StepNode

variable {node : StepNode} {kind : StepKind} {field : String} {min : Int} {number : Number}

/-- The fields that are read before a field are accepted. -/
def Reaches (node : StepNode) (kind : StepKind) (field : String) : Prop :=
  ∀ spec ∈ kind.fields.takeWhile (·.name ≠ field),
    ∃ setting, spec.Accepts (node.value spec) setting

theorem reaches_batchSize_iff : node.Reaches .dataProcessing "batchSize" ↔
    ∃ text, node.read .dataProcessing "processingType" FieldSpec.readText = .ok text := by
  have front : StepKind.dataProcessing.fields.takeWhile (·.name ≠ "batchSize") =
      [.text "processingType" "DEFAULT"] := by decide
  unfold Reaches
  rw [front, List.forall_mem_singleton]
  constructor
  · rintro ⟨setting, accepted⟩
    obtain ⟨text, rfl⟩ := accepted.exists_text (by decide)
    exact ⟨text, (read_text_iff rfl (by decide)).mpr ⟨rfl, accepted⟩⟩
  · rintro ⟨text, read⟩
    exact ⟨_, ((read_text_iff rfl (by decide)).mp read).2⟩

theorem reaches_delayMs : node.Reaches .delay "delayMs" := by
  have front : StepKind.delay.fields.takeWhile (·.name ≠ "delayMs") = [] := by decide
  unfold Reaches
  rw [front]
  exact List.forall_mem_nil _

theorem compile_of_type (typed : node.type = kind.tag) :
    node.compile = (node.action kind).map fun action => ⟨node.name, action⟩ := by
  rw [compile, kind?, typed, StepKind.ofTag?_tag]

/-- Once a whole-number field is reached, it settles whether a step compiles, and it is set to
what is read for it. -/
theorem compile_of_reaches (listed : (kind, field, min) ∈ StepKind.wholeFields)
    (typed : node.type = kind.tag) (reached : node.Reaches kind field) :
    ∃ action : UInt64 → Action,
      (∀ n, (action n).members.lookup field = some (Action.unsigned n)) ∧
      node.compile = (node.read kind field FieldSpec.readUnsigned).map
        fun n => ⟨node.name, action n⟩ := by
  rw [compile_of_type typed]
  obtain ⟨rfl, rfl, rfl⟩ | ⟨rfl, rfl, rfl⟩ := StepKind.wholeFields_cases listed
  · obtain ⟨text, read⟩ := reaches_batchSize_iff.mp reached
    refine ⟨.dataProcessing text, fun n => rfl, ?_⟩
    simp only [action, read]
    cases node.read .dataProcessing "batchSize" FieldSpec.readUnsigned <;> rfl
  · refine ⟨.delay, fun n => rfl, ?_⟩
    simp only [action]
    cases node.read .delay "delayMs" FieldSpec.readUnsigned <;> rfl

/-- Before a whole-number field is reached, a step fails because of another field. -/
theorem compile_of_not_reaches (listed : (kind, field, min) ∈ StepKind.wholeFields)
    (typed : node.type = kind.tag) (stopped : ¬ node.Reaches kind field) :
    ∃ other ≠ field, ∃ defect,
      node.compile = .error (.invalidField node.name other defect) := by
  rw [compile_of_type typed]
  obtain ⟨rfl, rfl, rfl⟩ | ⟨rfl, rfl, rfl⟩ := StepKind.wholeFields_cases listed
  · rw [reaches_batchSize_iff] at stopped
    cases read : node.read .dataProcessing "processingType" FieldSpec.readText with
    | ok text => exact absurd ⟨text, read⟩ stopped
    | error e =>
        obtain ⟨defect, -, rfl⟩ := Except.mapError_eq_error_iff.mp read
        refine ⟨"processingType", by decide, defect, ?_⟩
        simp only [action, read]
        rfl
  · exact absurd reaches_delayMs stopped

/-- A given number is read as it is for a whole-number field. -/
theorem read_of_given (listed : (kind, field, min) ∈ StepKind.wholeFields)
    (given : node.field? field = some (.number number)) : ∃ spec : FieldSpec,
    spec.constraints.min = some min ∧ node.read kind field FieldSpec.readUnsigned =
      (spec.readUnsigned (.number number)).mapError (.invalidField node.name field) := by
  have counts : ∀ spec : FieldSpec, spec.name = field → node.value spec = .number number := by
    rintro spec rfl
    rw [value, given, Option.getD_some]
  obtain ⟨spec, found, named, least⟩ : ∃ spec, kind.descriptor.field? field = some spec ∧
      spec.name = field ∧ spec.constraints.min = some min := by
    obtain ⟨rfl, rfl, rfl⟩ | ⟨rfl, rfl, rfl⟩ := StepKind.wholeFields_cases listed
    · exact ⟨.integer "batchSize" 100 1, rfl, rfl, rfl⟩
    · exact ⟨.integer "delayMs" 1000 0, rfl, rfl, rfl⟩
  refine ⟨spec, least, ?_⟩
  rw [read, found, ← counts spec named]

/-- What becomes of a number in a whole-number field. A step that compiles has its exact value,
or the greatest field value in place of a number that overshoots; and the step fails because of
the field if the field is reached and the number is no whole number within its bounds and does not
overshoot. -/
theorem whole_field_settled (listed : (kind, field, min) ∈ StepKind.wholeFields)
    (typed : node.type = kind.tag) (given : node.field? field = some (.number number)) :
    (∀ step, node.compile = .ok step → ∃ n : UInt64,
      step.action.members.lookup field = some (Action.unsigned n) ∧
      (number.exact = n.toNat ∨ (number.Overshoots ∧ (n.toNat : Int) = maxFieldValue))) ∧
    ((∃ step, node.compile = .ok step) ↔ node.Reaches kind field ∧ number.Fits min) ∧
    ((∃ defect, node.compile = .error (.invalidField node.name field defect)) ↔
      node.Reaches kind field ∧ ¬ number.Fits min) := by
  obtain ⟨natural, small⟩ : 0 ≤ min ∧ min ≤ maxFieldValue := by
    obtain ⟨-, -, rfl⟩ | ⟨-, -, rfl⟩ := StepKind.wholeFields_cases listed <;> decide
  by_cases reached : node.Reaches kind field
  · obtain ⟨action, set, settled⟩ := compile_of_reaches listed typed reached
    obtain ⟨spec, least, read⟩ := read_of_given listed given
    rw [read] at settled
    have fits : (∃ n, spec.readUnsigned (.number number) = .ok n) ↔ number.Fits min :=
      FieldSpec.exists_readUnsigned_iff least natural small
    cases outcome : spec.readUnsigned (.number number) with
    | ok n =>
        rw [outcome] at settled
        have compiled : node.compile = .ok ⟨node.name, action n⟩ := settled
        have fitting : number.Fits min := fits.mp ⟨n, outcome⟩
        refine ⟨?_, by simp [compiled, reached, fitting], by simp [compiled, fitting]⟩
        intro step same
        cases compiled.symm.trans same
        obtain ⟨stands, -⟩ := (FieldSpec.readUnsigned_number_iff least).mp outcome
        refine ⟨n, set n, ?_⟩
        obtain ⟨exactly, -⟩ | overshoots := Number.fieldValue?_eq_some_iff.mp stands
        · exact .inl exactly
        · exact .inr overshoots
    | error defect =>
        rw [outcome] at settled
        have failed : node.compile = .error (.invalidField node.name field defect) := settled
        have unfitting : ¬ number.Fits min := by
          intro fitting
          obtain ⟨n, read⟩ := fits.mpr fitting
          cases outcome.symm.trans read
        simp [failed, reached, unfitting]
  · obtain ⟨other, different, defect, failed⟩ := compile_of_not_reaches listed typed reached
    simp [failed, reached, different]

/-- A delay of `2 ^ 63` milliseconds. -/
def overlongDelay : StepNode :=
  { name := "d", type := "delay", label := "l", position := .origin
    fields := Fields.empty.insert "delayMs" (Json.integer 0x8000000000000000) }

theorem whole_field_settled_overlongDelay :
    (StepKind.delay, "delayMs", 0) ∈ StepKind.wholeFields ∧
      overlongDelay.type = StepKind.delay.tag ∧
      overlongDelay.field? "delayMs" =
        some (.number (.integer 0x8000000000000000 (by decide))) ∧
      ∃ step, overlongDelay.compile = .ok step := by
  have listed : (StepKind.delay, "delayMs", 0) ∈ StepKind.wholeFields := by
    simp [StepKind.wholeFields]
  have given : overlongDelay.field? "delayMs" =
      some (.number (.integer 0x8000000000000000 (by decide))) := by decide
  have overshoots : (Number.integer 0x8000000000000000 (by decide)).Overshoots := by
    norm_num [Number.Overshoots, Number.exact]
  refine ⟨listed, rfl, given, ?_⟩
  exact (whole_field_settled listed rfl given).2.1.mpr ⟨reaches_delayMs, .inr overshoots⟩

/-- A step may compile with a number that is not the one that was given. -/
theorem not_always_exact : ¬ ∀ (node : StepNode) (number : Number) (n : UInt64),
    node.type = StepKind.delay.tag → node.field? "delayMs" = some (.number number) →
    node.compile = .ok ⟨node.name, .delay n⟩ → number.exact = n.toNat := by
  intro always
  have compiled : overlongDelay.compile = .ok ⟨"d", .delay 0x7fffffffffffffff⟩ := by
    -- the kernel has the arithmetic on the thousand bits of a magnitude
    decide +kernel
  have given : overlongDelay.field? "delayMs" =
      some (.number (.integer 0x8000000000000000 (by decide))) := by decide
  have greatest : (0x7fffffffffffffff : UInt64).toNat = 0x7fffffffffffffff := by decide
  have same := always overlongDelay _ _ rfl given compiled
  rw [Number.exact, greatest] at same
  norm_num at same

end StepNode

end Workflow
