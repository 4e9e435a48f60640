import Workflow.Step.Contract
import Workflow.Proofs.Success

/-!
# When a step meets its contract

A step compiles when the value that counts for each field of its kind is accepted, and
the settings of the compiled step are what the values were accepted as. A setting is
itself accepted, as itself: compiling a step again from its settings gives the same ones.
-/

namespace Workflow

/-- An unsigned number is within the range of whole numbers. -/
theorem Action.unsigned_eq (n : UInt64) : ∃ inRange,
    unsigned n = .number (.integer n.toNat inRange) := by
  have inRange : -0x8000000000000000 ≤ (n.toNat : Int) ∧
      (n.toNat : Int) < 0x10000000000000000 := by
    have := n.toNat_lt
    omega
  refine ⟨inRange, ?_⟩
  rw [unsigned, Json.integer, dif_pos inRange]

theorem Action.unsigned_injective {m n : UInt64} (h : unsigned m = unsigned n) : m = n := by
  obtain ⟨_, first⟩ := unsigned_eq m
  obtain ⟨_, second⟩ := unsigned_eq n
  rw [first, second] at h
  apply UInt64.toNat_inj.mp
  have same : (m.toNat : Int) = n.toNat := by simpa using h
  exact Int.ofNat.inj same

theorem StepDescriptor.name_of_field? {descriptor : StepDescriptor} {name : String}
    {spec : FieldSpec} (h : descriptor.field? name = some spec) : spec.name = name := by
  have found := List.find?_some h
  exact of_decide_eq_true found

namespace FieldSpec

variable {spec : FieldSpec}

theorem readText_eq_ok_iff {value : Json} {text : String} :
    spec.readText value = .ok text ↔ value = .string text := by
  cases value <;> simp [readText]

/-- A number that counts for a field is not beyond the greatest field value. -/
theorem fieldValue?_le {number : Number} {n : Int} (h : number.fieldValue? = some n) :
    n ≤ maxFieldValue := by
  have real : ∀ x : Binary64, x.fieldValue? = some n → n ≤ maxFieldValue := by
    intro x h
    unfold Binary64.fieldValue? at h
    split at h
    · cases h
      exact Int.min_le_right _ _
    · cases h
  cases number with
  | integer m inRange =>
      rw [Number.fieldValue?] at h
      split at h
      · cases h
        assumption
      · exact real _ h
  | real x => exact real x h

/-- A whole number for a field: a number that stands for one and is not below the minimum. -/
theorem readWhole_eq_ok_iff {value : Json} {n : Int} : spec.readWhole value = .ok n ↔
    (∃ number : Number, value = .number number ∧ number.fieldValue? = some n) ∧
      ∀ min ∈ spec.constraints.min, min ≤ n := by
  have checked : ∀ number : Number, spec.readWhole (.number number) = .ok n ↔
      number.fieldValue? = some n ∧ ∀ min ∈ spec.constraints.min, min ≤ n := by
    intro number
    rw [readWhole]
    cases number.fieldValue? with
    | none => simp
    | some m =>
        cases least : spec.constraints.min with
        | none => simp
        | some min =>
            by_cases below : m < min
            · simp only [below, if_true, reduceCtorEq, Option.some.injEq, false_iff, not_and]
              rintro rfl atLeast
              exact absurd (atLeast min rfl) (by omega)
            · simp only [below, if_false, Except.ok.injEq, Option.some.injEq, iff_self_and]
              rintro rfl _ same
              cases same
              omega
  cases value with
  | number number =>
      rw [checked]
      simp
  | null | bool _ | string _ | array _ | object _ => simp [readWhole]

theorem readUnsigned_eq_ok_iff {value : Json} {n : UInt64} : spec.readUnsigned value = .ok n ↔
    ∃ whole : Int, spec.readWhole value = .ok whole ∧ 0 ≤ whole ∧
      UInt64.ofNat whole.toNat = n := by
  rw [readUnsigned, Except.bind_eq_ok_iff]
  refine exists_congr fun whole => and_congr_right fun _ => ?_
  by_cases natural : 0 ≤ whole
  · simp [natural]
  · simp [natural]

/-- A value that counts for a field, and the setting it is compiled to. -/
inductive Accepts (spec : FieldSpec) : Json → Json → Prop
  | text (text : String) : spec.kind ≠ .integer → Accepts spec (.string text) (.string text)
  | whole {value : Json} {n : UInt64} : spec.kind = .integer → spec.readUnsigned value = .ok n →
      Accepts spec value (Action.unsigned n)

theorem accepts_string_iff (isText : spec.kind ≠ .integer) {value : Json} {text : String} :
    spec.Accepts value (.string text) ↔ value = .string text := by
  constructor
  · generalize written : Json.string text = setting
    intro accepted
    cases accepted with
    | text _ _ => rfl
    | whole isWhole _ => exact absurd isWhole isText
  · rintro rfl
    exact .text text isText

theorem accepts_unsigned_iff (isWhole : spec.kind = .integer) {value : Json} {n : UInt64} :
    spec.Accepts value (Action.unsigned n) ↔ spec.readUnsigned value = .ok n := by
  constructor
  · generalize written : Action.unsigned n = setting
    intro accepted
    cases accepted with
    | text _ isText => exact absurd isWhole isText
    | whole _ read =>
        rw [Action.unsigned_injective written]
        exact read
  · exact .whole isWhole

/-- A field value that is not negative survives as an unsigned number. -/
theorem toNat_ofNat_toNat {n : Int} (natural : 0 ≤ n) (small : n ≤ maxFieldValue) :
    ((UInt64.ofNat n.toNat).toNat : Int) = n := by
  unfold maxFieldValue at small
  rw [UInt64.toNat_ofNat']
  omega

/-- A number that is read for a field is within the bounds of the field. -/
theorem readUnsigned_bounds {value : Json} {n : UInt64} (h : spec.readUnsigned value = .ok n) :
    (n.toNat : Int) ≤ maxFieldValue ∧ ∀ min ∈ spec.constraints.min, min ≤ (n.toNat : Int) := by
  obtain ⟨whole, read, natural, same⟩ := readUnsigned_eq_ok_iff.mp h
  obtain ⟨⟨_, _, stands⟩, atLeast⟩ := readWhole_eq_ok_iff.mp read
  have small := fieldValue?_le stands
  have kept : (n.toNat : Int) = whole := same ▸ toNat_ofNat_toNat natural small
  exact ⟨kept ▸ small, kept ▸ atLeast⟩

/-- A number within the bounds of a field is read as it is. -/
theorem readUnsigned_unsigned {n : UInt64} (small : (n.toNat : Int) ≤ maxFieldValue)
    (atLeast : ∀ min ∈ spec.constraints.min, min ≤ (n.toNat : Int)) :
    spec.readUnsigned (Action.unsigned n) = .ok n := by
  obtain ⟨inRange, written⟩ := Action.unsigned_eq n
  have stands : (Number.integer n.toNat inRange).fieldValue? = some (n.toNat : Int) := by
    rw [Number.fieldValue?, if_pos small]
  refine readUnsigned_eq_ok_iff.mpr ⟨n.toNat, ?_, Int.natCast_nonneg _, by simp⟩
  exact readWhole_eq_ok_iff.mpr ⟨⟨_, written, stands⟩, atLeast⟩

/-- A setting is accepted as it is. -/
theorem Accepts.again {value setting : Json} (accepted : spec.Accepts value setting) :
    spec.Accepts setting setting := by
  cases accepted with
  | text text isText => exact .text text isText
  | whole isWhole read =>
      obtain ⟨small, atLeast⟩ := readUnsigned_bounds read
      exact .whole isWhole (readUnsigned_unsigned small atLeast)

theorem Accepts.setting_ne_null {value setting : Json} (accepted : spec.Accepts value setting) :
    setting ≠ .null := by
  cases accepted with
  | text text _ => simp
  | @whole _ n _ _ =>
      obtain ⟨_, written⟩ := Action.unsigned_eq n
      rw [written]
      simp

end FieldSpec

namespace StepNode

/-- What counts for a field of a step is accepted as a setting of that name. -/
def Fills (node : StepNode) (spec : FieldSpec) (setting : String × Json) : Prop :=
  setting.1 = spec.name ∧ spec.Accepts (node.value spec) setting.2

/-- The settings of an action are what a step has for the fields of its kind. -/
def Meets (node : StepNode) (action : Action) : Prop :=
  List.Forall₂ node.Fills action.kind.fields action.members

variable {node : StepNode} {kind : StepKind} {field : String} {spec : FieldSpec}

theorem read_text_iff (found : kind.descriptor.field? field = some spec)
    (isText : spec.kind ≠ .integer) {text : String} :
    node.read kind field FieldSpec.readText = .ok text ↔ node.Fills spec (field, .string text) := by
  have named : field = spec.name := (StepDescriptor.name_of_field? found).symm
  rw [read, found, Fills, FieldSpec.accepts_string_iff isText, and_iff_right named]
  simp only [Except.mapError_eq_ok_iff, FieldSpec.readText_eq_ok_iff]

theorem read_unsigned_iff (found : kind.descriptor.field? field = some spec)
    (isWhole : spec.kind = .integer) {n : UInt64} :
    node.read kind field FieldSpec.readUnsigned = .ok n ↔
      node.Fills spec (field, Action.unsigned n) := by
  have named : field = spec.name := (StepDescriptor.name_of_field? found).symm
  rw [read, found, Fills, FieldSpec.accepts_unsigned_iff isWhole, and_iff_right named]
  simp only [Except.mapError_eq_ok_iff]

/-- What a step of a kind does is settled field by field. -/
theorem action_eq_ok_iff {action : Action} :
    node.action kind = .ok action ↔ action.kind = kind ∧ node.Meets action := by
  constructor
  · intro h
    cases kind with
    | serviceCall | scheduleTask | notification | graphqlCall =>
        obtain ⟨_, first, h⟩ := Except.bind_eq_ok_iff.mp h
        obtain ⟨_, second, h⟩ := Except.bind_eq_ok_iff.mp h
        cases h
        exact ⟨rfl, .cons ((read_text_iff rfl (by decide)).mp first)
          (.cons ((read_text_iff rfl (by decide)).mp second) .nil)⟩
    | dataProcessing =>
        obtain ⟨_, first, h⟩ := Except.bind_eq_ok_iff.mp h
        obtain ⟨_, second, h⟩ := Except.bind_eq_ok_iff.mp h
        cases h
        exact ⟨rfl, .cons ((read_text_iff rfl (by decide)).mp first)
          (.cons ((read_unsigned_iff rfl rfl).mp second) .nil)⟩
    | condition =>
        obtain ⟨_, first, h⟩ := Except.bind_eq_ok_iff.mp h
        obtain ⟨_, second, h⟩ := Except.bind_eq_ok_iff.mp h
        obtain ⟨_, third, h⟩ := Except.bind_eq_ok_iff.mp h
        cases h
        exact ⟨rfl, .cons ((read_text_iff rfl (by decide)).mp first)
          (.cons ((read_text_iff rfl (by decide)).mp second)
            (.cons ((read_text_iff rfl (by decide)).mp third) .nil))⟩
    | delay =>
        obtain ⟨_, only, h⟩ := Except.bind_eq_ok_iff.mp h
        cases h
        exact ⟨rfl, .cons ((read_unsigned_iff rfl rfl).mp only) .nil⟩
    | externalEvent =>
        obtain ⟨_, only, h⟩ := Except.bind_eq_ok_iff.mp h
        cases h
        exact ⟨rfl, .cons ((read_text_iff rfl (by decide)).mp only) .nil⟩
  · rintro ⟨rfl, meets⟩
    cases action with
    | serviceCall | scheduleTask | notification | graphqlCall =>
        obtain ⟨first, rest⟩ := List.forall₂_cons.mp meets
        obtain ⟨second, -⟩ := List.forall₂_cons.mp rest
        exact Except.bind_eq_ok_iff.mpr ⟨_, (read_text_iff rfl (by decide)).mpr first,
          Except.bind_eq_ok_iff.mpr ⟨_, (read_text_iff rfl (by decide)).mpr second, rfl⟩⟩
    | dataProcessing =>
        obtain ⟨first, rest⟩ := List.forall₂_cons.mp meets
        obtain ⟨second, -⟩ := List.forall₂_cons.mp rest
        exact Except.bind_eq_ok_iff.mpr ⟨_, (read_text_iff rfl (by decide)).mpr first,
          Except.bind_eq_ok_iff.mpr ⟨_, (read_unsigned_iff rfl rfl).mpr second, rfl⟩⟩
    | condition =>
        obtain ⟨first, rest⟩ := List.forall₂_cons.mp meets
        obtain ⟨second, rest⟩ := List.forall₂_cons.mp rest
        obtain ⟨third, -⟩ := List.forall₂_cons.mp rest
        exact Except.bind_eq_ok_iff.mpr ⟨_, (read_text_iff rfl (by decide)).mpr first,
          Except.bind_eq_ok_iff.mpr ⟨_, (read_text_iff rfl (by decide)).mpr second,
            Except.bind_eq_ok_iff.mpr ⟨_, (read_text_iff rfl (by decide)).mpr third, rfl⟩⟩⟩
    | delay =>
        obtain ⟨only, -⟩ := List.forall₂_cons.mp meets
        exact Except.bind_eq_ok_iff.mpr ⟨_, (read_unsigned_iff rfl rfl).mpr only, rfl⟩
    | externalEvent =>
        obtain ⟨only, -⟩ := List.forall₂_cons.mp meets
        exact Except.bind_eq_ok_iff.mpr ⟨_, (read_text_iff rfl (by decide)).mpr only, rfl⟩

/-- A step compiles to a step of its name and kind that has what it has for its fields. -/
theorem compile_eq_ok_iff {step : Step} : node.compile = .ok step ↔
    node.type = step.kind.tag ∧ step.name = node.name ∧ node.Meets step.action := by
  rw [StepNode.compile, ← StepKind.ofTag?_eq_some_iff, ← StepNode.kind?]
  cases node.kind? with
  | none => simp
  | some kind =>
      simp only [Except.map_eq_ok_iff, action_eq_ok_iff, Option.some.injEq]
      constructor
      · rintro ⟨action, ⟨rfl, meets⟩, rfl⟩
        exact ⟨rfl, rfl, meets⟩
      · rintro ⟨rfl, named, meets⟩
        exact ⟨step.action, ⟨rfl, meets⟩, by rw [← named]⟩

end StepNode

end Workflow
