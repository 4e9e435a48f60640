import Workflow.Proofs.Step.Contract

/-!
# Which steps compile, and why others do not

What a step has to meet is said here without a word about how it is checked. It must be of a type
in the registry and have, for the fields of that type, no values but those that these fields take.
A field that is absent or null is filled in, and fields of other types are of no concern.

A step compiles exactly if it meets this contract, and otherwise the error is its first violation:
the type, or else the first field in the order of the registry with a value that it does not take.
The proof goes by way of one equation. The compiler has a case for each kind of step and reads the
fields of that kind by their names, one after the other; this comes to reading the fields that the
registry lists, in its order.
-/

namespace Workflow

namespace FieldSpec

/-! ## What the registry promises -/

/-- The default of a field is a setting of it, and its numbers are not negative. -/
structure Sound (spec : FieldSpec) : Prop where
  default_accepted : spec.Accepts spec.default.toJson spec.default.toJson
  min_natural : spec.kind = .integer → ∃ min, spec.constraints.min = some min ∧ 0 ≤ min

theorem sound_of_text {spec : FieldSpec} {text : String} (isText : spec.kind ≠ .integer)
    (default : spec.default = .text text) : spec.Sound where
  default_accepted := by
    rw [default]
    exact .text text isText
  min_natural isWhole := absurd isWhole isText

theorem sound_integer {name : String} {default : UInt64} {min : Nat}
    (small : (default.toNat : Int) ≤ maxFieldValue) (atLeast : min ≤ default.toNat) :
    (integer name default.toNat min).Sound where
  default_accepted := by
    refine .whole rfl (readUnsigned_unsigned small ?_)
    rintro _ ⟨⟩
    exact Int.ofNat_le.mpr atLeast
  min_natural _ := ⟨min, rfl, Int.natCast_nonneg min⟩

/-- Every field of the registry is sound. -/
theorem sound_of_mem {kind : StepKind} : ∀ spec ∈ kind.fields, spec.Sound := by
  cases kind with
  | serviceCall | scheduleTask | notification | graphqlCall =>
      exact List.forall_mem_cons.mpr ⟨sound_of_text (by decide) rfl,
        List.forall_mem_singleton.mpr (sound_of_text (by decide) rfl)⟩
  | condition =>
      exact List.forall_mem_cons.mpr ⟨sound_of_text (by decide) rfl,
        List.forall_mem_cons.mpr ⟨sound_of_text (by decide) rfl,
          List.forall_mem_singleton.mpr (sound_of_text (by decide) rfl)⟩⟩
  | externalEvent => exact List.forall_mem_singleton.mpr (sound_of_text (by decide) rfl)
  | dataProcessing =>
      have batchSize : (integer "batchSize" 100 1).Sound :=
        @sound_integer _ 100 1 (by decide) (by decide)
      exact List.forall_mem_cons.mpr ⟨sound_of_text (by decide) rfl,
        List.forall_mem_singleton.mpr batchSize⟩
  | delay =>
      have delayMs : (integer "delayMs" 1000 0).Sound :=
        @sound_integer _ 1000 0 (by decide) (by decide)
      exact List.forall_mem_singleton.mpr delayMs

/-! ## Values that a field takes -/

variable {spec : FieldSpec} {value : Json} {defect : FieldDefect}

/-- The values that a field takes: text, or a number that is read as a whole number which is not
below the least value of the field. -/
inductive Takes (spec : FieldSpec) : Json → Prop
  | text (text : String) : spec.kind ≠ .integer → Takes spec (.string text)
  | whole {number : Number} {n : Int} : spec.kind = .integer → number.fieldValue? = some n →
      (∀ min, spec.constraints.min = some min → min ≤ n) → Takes spec (.number number)

/-- What is wrong with a value that a field does not take. -/
inductive Refuses (spec : FieldSpec) : Json → FieldDefect → Prop
  | notText {value : Json} : spec.kind ≠ .integer → (∀ text, value ≠ .string text) →
      Refuses spec value (.notText value)
  | notWhole {value : Json} : spec.kind = .integer →
      (∀ number : Number, value = .number number → number.fieldValue? = none) →
      Refuses spec value (.notWhole value)
  | belowMinimum {number : Number} {n min : Int} : spec.kind = .integer →
      number.fieldValue? = some n → spec.constraints.min = some min → n < min →
      Refuses spec (.number number) (.belowMinimum min n)

theorem readText_eq_error_iff (isText : spec.kind ≠ .integer) :
    spec.readText value = .error defect ↔ spec.Refuses value defect := by
  constructor
  · intro h
    cases value with
    | string text => cases h
    | null | bool _ | number _ | array _ | object _ =>
        cases h
        exact .notText isText fun _ same => by cases same
  · rintro (⟨-, noText⟩ | ⟨isWhole, -⟩ | ⟨isWhole, -, -, -⟩)
    · cases value with
      | string text => exact absurd rfl (noText text)
      | null | bool _ | number _ | array _ | object _ => rfl
    · exact absurd isWhole isText
    · exact absurd isWhole isText

theorem readWhole_eq_error_iff (isWhole : spec.kind = .integer) :
    spec.readWhole value = .error defect ↔ spec.Refuses value defect := by
  constructor
  · intro h
    cases value with
    | number number =>
        rw [readWhole] at h
        cases stands : number.fieldValue? with
        | none =>
            rw [stands] at h
            cases h
            exact .notWhole isWhole fun _ same => by cases same; exact stands
        | some n =>
            cases least : spec.constraints.min with
            | none => simp [stands, least] at h
            | some min =>
                by_cases below : n < min
                · simp only [stands, least, if_pos below] at h
                  cases h
                  exact .belowMinimum isWhole stands least below
                · simp [stands, least, below] at h
    | null | bool _ | string _ | array _ | object _ =>
        cases h
        exact .notWhole isWhole fun _ same => by cases same
  · rintro (⟨isText, -⟩ | ⟨-, noWhole⟩ | ⟨-, stands, least, below⟩)
    · exact absurd isWhole isText
    · cases value with
      | number number => simp [readWhole, noWhole number rfl]
      | null | bool _ | string _ | array _ | object _ => rfl
    · simp [readWhole, stands, least, below]

/-- A number that is not below a least value that is not negative has no other defect. -/
theorem readUnsigned_eq_error_iff (sound : spec.Sound) (isWhole : spec.kind = .integer) :
    spec.readUnsigned value = .error defect ↔ spec.Refuses value defect := by
  rw [readUnsigned, Except.bind_eq_error_iff, readWhole_eq_error_iff isWhole]
  refine or_iff_left ?_
  rintro ⟨n, read, h⟩
  obtain ⟨min, least, natural⟩ := sound.min_natural isWhole
  have atLeast := (readWhole_eq_ok_iff.mp read).2 min least
  rw [if_pos (Int.le_trans natural atLeast)] at h
  cases h

/-! ## Reading a field of any kind -/

/-- The setting that a value is compiled to, whatever the kind of the field. -/
def settle (spec : FieldSpec) (value : Json) : Except FieldDefect Json :=
  match spec.kind with
  | .integer => (spec.readUnsigned value).map Action.unsigned
  | .text | .multiline | .expression => (spec.readText value).map Json.string

theorem settle_of_text (isText : spec.kind ≠ .integer) :
    spec.settle value = (spec.readText value).map Json.string := by
  unfold settle
  split
  · rename_i isWhole
    exact absurd isWhole isText
  all_goals rfl

theorem settle_of_whole (isWhole : spec.kind = .integer) :
    spec.settle value = (spec.readUnsigned value).map Action.unsigned := by
  rw [settle, isWhole]

theorem settle_eq_ok_iff {setting : Json} :
    spec.settle value = .ok setting ↔ spec.Accepts value setting := by
  by_cases isWhole : spec.kind = .integer
  · rw [settle_of_whole isWhole, Except.map_eq_ok_iff]
    constructor
    · rintro ⟨n, read, rfl⟩
      exact .whole isWhole read
    · rintro (⟨text, isText⟩ | ⟨-, read⟩)
      · exact absurd isWhole isText
      · exact ⟨_, read, rfl⟩
  · rw [settle_of_text isWhole, Except.map_eq_ok_iff]
    constructor
    · rintro ⟨text, read, rfl⟩
      rw [readText_eq_ok_iff.mp read]
      exact .text text isWhole
    · rintro (⟨text, -⟩ | ⟨whole, -⟩)
      · exact ⟨text, rfl, rfl⟩
      · exact absurd whole isWhole

theorem settle_eq_error_iff (sound : spec.Sound) :
    spec.settle value = .error defect ↔ spec.Refuses value defect := by
  by_cases isWhole : spec.kind = .integer
  · rw [settle_of_whole isWhole, ← readUnsigned_eq_error_iff sound isWhole]
    cases spec.readUnsigned value <;> simp [Except.map]
  · rw [settle_of_text isWhole, ← readText_eq_error_iff isWhole]
    cases spec.readText value <;> simp [Except.map]

/-- A value has one setting at most. -/
theorem Accepts.unique {first second : Json} (accepted : spec.Accepts value first)
    (again : spec.Accepts value second) : first = second :=
  Except.ok.inj ((settle_eq_ok_iff.mpr accepted).symm.trans (settle_eq_ok_iff.mpr again))

/-- These are the values that have a setting. -/
theorem exists_accepts_iff (sound : spec.Sound) :
    (∃ setting, spec.Accepts value setting) ↔ spec.Takes value := by
  constructor
  · rintro ⟨_, accepted⟩
    cases accepted with
    | text text isText => exact .text text isText
    | whole isWhole read =>
        obtain ⟨_, kept, -, -⟩ := readUnsigned_eq_ok_iff.mp read
        obtain ⟨⟨_, rfl, stands⟩, atLeast⟩ := readWhole_eq_ok_iff.mp kept
        exact .whole isWhole stands atLeast
  · intro taken
    cases taken with
    | text text isText => exact ⟨_, .text text isText⟩
    | @whole number n isWhole stands atLeast =>
        obtain ⟨min, least, natural⟩ := sound.min_natural isWhole
        have read : spec.readUnsigned (.number number) = .ok (UInt64.ofNat n.toNat) := by
          apply readUnsigned_eq_ok_iff.mpr
          refine ⟨n, ?_, Int.le_trans natural (atLeast min least), rfl⟩
          exact readWhole_eq_ok_iff.mpr ⟨⟨number, rfl, stands⟩, atLeast⟩
        exact ⟨_, .whole isWhole read⟩

end FieldSpec

namespace StepNode

variable {node : StepNode} {kind : StepKind} {field : String} {spec : FieldSpec}

/-! ## The fields of a step -/

/-- What a step is compiled to have for a field of the registry, under its name. -/
def setting (node : StepNode) (spec : FieldSpec) : Except CompileError (String × Json) :=
  ((spec.settle (node.value spec)).map (Prod.mk spec.name)).mapError
    (.invalidField node.name spec.name)

theorem setting_of_text (found : kind.descriptor.field? field = some spec)
    (isText : spec.kind ≠ .integer) : node.setting spec =
      (node.read kind field FieldSpec.readText).map fun text => (field, .string text) := by
  rw [setting, FieldSpec.settle_of_text isText, read, found, StepDescriptor.name_of_field? found]
  dsimp only
  cases spec.readText (node.value spec) <;> rfl

theorem setting_of_whole (found : kind.descriptor.field? field = some spec)
    (isWhole : spec.kind = .integer) : node.setting spec =
      (node.read kind field FieldSpec.readUnsigned).map fun n => (field, Action.unsigned n) := by
  rw [setting, FieldSpec.settle_of_whole isWhole, read, found,
    StepDescriptor.name_of_field? found]
  dsimp only
  cases spec.readUnsigned (node.value spec) <;> rfl

/-- The members of a compiled step are what the fields of the registry are read as, in the order
of the registry, and a step fails with the first of them that does. -/
theorem map_members_action (node : StepNode) (kind : StepKind) :
    (node.action kind).map Action.members = kind.fields.mapM node.setting := by
  refine Eq.trans ?_ (congrFun Except.map_id (kind.fields.mapM node.setting))
  cases kind with
  | serviceCall | scheduleTask | notification | graphqlCall =>
      exact Except.map_bind_eq_map_mapM (setting_of_text rfl (by decide)) fun _ =>
        Except.map_bind_eq_map_mapM (setting_of_text rfl (by decide)) fun _ => rfl
  | dataProcessing =>
      exact Except.map_bind_eq_map_mapM (setting_of_text rfl (by decide)) fun _ =>
        Except.map_bind_eq_map_mapM (setting_of_whole rfl rfl) fun _ => rfl
  | condition =>
      exact Except.map_bind_eq_map_mapM (setting_of_text rfl (by decide)) fun _ =>
        Except.map_bind_eq_map_mapM (setting_of_text rfl (by decide)) fun _ =>
          Except.map_bind_eq_map_mapM (setting_of_text rfl (by decide)) fun _ => rfl
  | delay => exact Except.map_bind_eq_map_mapM (setting_of_whole rfl rfl) fun _ => rfl
  | externalEvent =>
      exact Except.map_bind_eq_map_mapM (setting_of_text rfl (by decide)) fun _ => rfl

theorem setting_eq_ok_iff {member : String × Json} :
    node.setting spec = .ok member ↔ node.Fills spec member := by
  obtain ⟨name, set⟩ := member
  rw [setting, Except.mapError_eq_ok_iff, Except.map_eq_ok_iff, Fills]
  simp only [FieldSpec.settle_eq_ok_iff, Prod.mk.injEq]
  constructor
  · rintro ⟨_, accepted, rfl, rfl⟩
    exact ⟨rfl, accepted⟩
  · rintro ⟨named, accepted⟩
    exact ⟨set, accepted, named.symm, rfl⟩

theorem value_of_given {value : Json} (given : node.field? spec.name = some value) :
    node.value spec = value := by
  rw [StepNode.value, given, Option.getD_some]

theorem value_of_absent (absent : node.field? spec.name = none) :
    node.value spec = spec.default.toJson := by
  rw [value, absent, Option.getD_none]

/-- A field is at fault only by a value that is given: the default is accepted. -/
theorem setting_eq_error_iff (sound : spec.Sound) {error : CompileError} :
    node.setting spec = .error error ↔ ∃ value defect, node.field? spec.name = some value ∧
      spec.Refuses value defect ∧ .invalidField node.name spec.name defect = error := by
  rw [setting, Except.mapError_eq_error_iff]
  simp only [Except.map_eq_error_iff]
  cases given : node.field? spec.name with
  | some value => simp [value_of_given given, FieldSpec.settle_eq_error_iff sound]
  | none =>
      have settled := FieldSpec.settle_eq_ok_iff.mpr sound.default_accepted
      simp [value_of_absent given, settled]

/-- A step has no value for a field but one that the field takes. -/
def Fulfils (node : StepNode) (spec : FieldSpec) : Prop :=
  ∀ value, node.fields.get? spec.name = some value → value = .null ∨ spec.Takes value

theorem field?_eq_some_iff {name : String} {value : Json} :
    node.field? name = some value ↔ node.fields.get? name = some value ∧ value ≠ .null := by
  rw [field?, Option.filter_eq_some_iff, decide_eq_true_eq]

theorem fulfils_of_absent (absent : node.field? spec.name = none) : node.Fulfils spec := by
  intro value held
  by_contra! wrong
  cases absent.symm.trans (field?_eq_some_iff.mpr ⟨held, wrong.1⟩)

/-- A field can be read from a step if the step fulfils it. -/
theorem exists_setting_iff (sound : spec.Sound) :
    (∃ member, node.setting spec = .ok member) ↔ node.Fulfils spec := by
  have settled : (∃ member, node.setting spec = .ok member) ↔ spec.Takes (node.value spec) := by
    rw [← FieldSpec.exists_accepts_iff sound]
    simp [setting_eq_ok_iff, Fills]
  rw [settled]
  cases given : node.field? spec.name with
  | some value =>
      obtain ⟨held, notNull⟩ := field?_eq_some_iff.mp given
      simp [value_of_given given, Fulfils, held, notNull]
  | none =>
      rw [value_of_absent given]
      refine iff_of_true ?_ (fulfils_of_absent given)
      exact (FieldSpec.exists_accepts_iff sound).mp ⟨_, sound.default_accepted⟩

/-! ## Whole steps -/

/-- A step of a type in the registry that fulfils the fields of that type. -/
def MeetsContract (node : StepNode) : Prop :=
  ∃ kind : StepKind, node.type = kind.tag ∧
    ∀ spec ∈ kind.descriptor.fields, node.Fulfils spec

/-- What is wrong with a step: its type, or else the first field with a value that it does not
take. -/
inductive FirstViolation (node : StepNode) : CompileError → Prop
  | unknownType : (∀ kind : StepKind, node.type ≠ kind.tag) →
      FirstViolation node (.unknownType node.name node.type)
  | field {kind : StepKind} {before after : List FieldSpec} {spec : FieldSpec} {value : Json}
      {defect : FieldDefect} : node.type = kind.tag →
      kind.descriptor.fields = before ++ spec :: after →
      (∀ earlier ∈ before, node.Fulfils earlier) →
      node.fields.get? spec.name = some value → value ≠ .null → spec.Refuses value defect →
      FirstViolation node (.invalidField node.name spec.name defect)

theorem exists_action_iff :
    (∃ action, node.action kind = .ok action) ↔ ∀ spec ∈ kind.fields, node.Fulfils spec := by
  rw [← @Except.exists_map_eq_ok_iff _ _ _ _ Action.members, map_members_action,
    Except.exists_mapM_eq_ok_iff]
  exact forall₂_congr fun spec listed => exists_setting_iff (FieldSpec.sound_of_mem spec listed)

/-- The fields of a kind are tried in the order of the registry, and the first that is not
fulfilled is named. -/
theorem action_eq_error_iff {error : CompileError} : node.action kind = .error error ↔
    ∃ before spec after value defect, kind.fields = before ++ spec :: after ∧
      (∀ earlier ∈ before, node.Fulfils earlier) ∧ node.field? spec.name = some value ∧
      spec.Refuses value defect ∧ .invalidField node.name spec.name defect = error := by
  have tried : node.action kind = .error error ↔ kind.fields.mapM node.setting = .error error := by
    rw [← map_members_action, Except.map_eq_error_iff]
  have read : ∀ {before spec after}, kind.fields = before ++ spec :: after → spec.Sound ∧
      ((∀ earlier ∈ before, ∃ member, node.setting earlier = .ok member) ↔
        ∀ earlier ∈ before, node.Fulfils earlier) := by
    intro before spec after split
    have sound := @FieldSpec.sound_of_mem kind
    rw [split, List.forall_mem_append, List.forall_mem_cons] at sound
    obtain ⟨front, own, -⟩ := sound
    exact ⟨own, forall₂_congr fun first listed => exists_setting_iff (front first listed)⟩
  rw [tried, Except.mapM_eq_error_iff]
  constructor
  · rintro ⟨before, spec, after, split, earlier, failed⟩
    obtain ⟨sound, fulfilled⟩ := read split
    obtain ⟨value, defect, wrong⟩ := (setting_eq_error_iff sound).mp failed
    exact ⟨before, spec, after, value, defect, split, fulfilled.mp earlier, wrong⟩
  · rintro ⟨before, spec, after, value, defect, split, earlier, wrong⟩
    obtain ⟨sound, fulfilled⟩ := read split
    exact ⟨before, spec, after, split, fulfilled.mpr earlier,
      (setting_eq_error_iff sound).mpr ⟨value, defect, wrong⟩⟩

/-- A step compiles exactly if it meets its contract. -/
theorem exists_compile_iff : (∃ step, node.compile = .ok step) ↔ node.MeetsContract := by
  have typed : ∀ kind, node.kind? = some kind ↔ node.type = kind.tag :=
    fun kind => StepKind.ofTag?_eq_some_iff
  rw [compile, MeetsContract]
  simp only [← typed]
  cases node.kind? with
  | none => simp
  | some kind =>
      rw [Except.exists_map_eq_ok_iff, exists_action_iff]
      simp only [Option.some.injEq, exists_eq_left']
      rfl

/-- It fails with its first violation and with nothing else. -/
theorem compile_eq_error_iff {error : CompileError} :
    node.compile = .error error ↔ node.FirstViolation error := by
  have typed : ∀ kind, node.kind? = some kind ↔ node.type = kind.tag :=
    fun kind => StepKind.ofTag?_eq_some_iff
  rw [compile]
  cases known : node.kind? with
  | none =>
      have unknown : ∀ kind : StepKind, node.type ≠ kind.tag :=
        fun kind tagged => by cases known.symm.trans ((typed kind).mpr tagged)
      constructor
      · rintro ⟨⟩
        exact .unknownType unknown
      · rintro (_ | ⟨tagged⟩)
        · rfl
        · exact absurd tagged (unknown _)
  | some kind =>
      have tagged : node.type = kind.tag := (typed kind).mp known
      rw [Except.map_eq_error_iff, action_eq_error_iff]
      constructor
      · rintro ⟨before, spec, after, value, defect, split, earlier, given, refused, rfl⟩
        obtain ⟨held, notNull⟩ := field?_eq_some_iff.mp given
        exact .field tagged split earlier held notNull refused
      · rintro (unknown | ⟨same, split, earlier, held, notNull, refused⟩)
        · exact absurd tagged (unknown kind)
        · obtain rfl := StepKind.tag_injective (tagged.symm.trans same)
          have given := field?_eq_some_iff.mpr ⟨held, notNull⟩
          exact ⟨_, _, _, _, _, split, earlier, given, refused, rfl⟩

end StepNode

end Workflow
