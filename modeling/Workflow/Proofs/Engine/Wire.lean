import Workflow.Engine.Text
import Workflow.Proofs.Json.Format
import Workflow.Proofs.Timestamp.Text

/-!
# Records, runs and payloads on the wire

What passes between a client and the engine arrives as it was sent: from the text of a record, a
run, a payload or a creation request the same value is decoded. The text may also be reworded,
with its members in another order, with `null` for what is absent and with members that the
format does not know.

There are two exceptions. A time with a leap second within a minute has no text of its own, and
arrives as the second after it. And the payload of a creation request is flattened into it, so the
values of unknown members are held until the payload has been picked out, and a value that cannot
be held makes the request unreadable.
-/

namespace Workflow

open ParseTree (ofJson ofMembers Keyed Agrees Restates ReadsByName)

/-! ## Plain values -/

theorem faithful_int64 : Faithful Int64.toJson ParseTree.int64? where
  decode_encode n := by
    have lower := n.le_toInt
    have upper := n.toInt_lt
    have inRange : -0x8000000000000000 ≤ n.toInt ∧ n.toInt < 0x10000000000000000 := by omega
    have small : n.toInt ≤ Int64.maxValue.toInt := Int.le_of_lt_add_one upper
    simp [Int64.toJson, Json.integer, inRange, small, ofJson, ParseTree.int64?,
      ParseTree.integer?]
  decode_null := rfl
  legible n := Json.legible_integer n.toInt

theorem faithful_timestamp :
    Faithful Timestamp.toJson Timestamp.ofTree? Timestamp.normalized where
  decode_encode t := by
    simp only [Timestamp.toJson, ofJson, Timestamp.ofTree?, ParseTree.string?,
      Option.bind_eq_bind, Option.bind_some, String.toList_ofList, t.ofText?_text]
  decode_null := rfl
  legible _ := .string _

/-- What is read has a leap second at the end of a minute only. -/
theorem Timestamp.normal_of_ofTree? {tree : ParseTree} {t : Timestamp}
    (read : ofTree? tree = some t) : t.Normal := by
  obtain ⟨text, -, read⟩ := Option.bind_eq_some_iff.mp read
  exact normal_of_ofText? read

theorem faithful_status : Faithful Status.toJson Status.ofTree? where
  decode_encode := Status.ofName?_name
  decode_null := rfl
  legible _ := .string _

theorem faithful_runStatus : Faithful RunStatus.toJson RunStatus.ofTree? where
  decode_encode := RunStatus.ofName?_name
  decode_null := rfl
  legible _ := .string _

/-! ## Records -/

namespace Record

/-- The times that a record names. -/
def times (record : Record) : List Timestamp :=
  record.createdAt :: record.updatedAt.toList

/-- A record with its times as they are read. -/
def normalized (record : Record) : Record :=
  { record with
    createdAt := record.createdAt.normalized
    updatedAt := record.updatedAt.map Timestamp.normalized }

theorem normalized_eq_self_iff {record : Record} :
    record.normalized = record ↔ ∀ t ∈ record.times, t.Normal := by
  obtain ⟨id, name, description, version, content, status, createdBy, createdAt, updatedAt⟩ :=
    record
  cases updatedAt <;> simp [normalized, times, Timestamp.normalized_eq_self_iff]

/-- The format of records. -/
def format : ObjectFormat Record where
  encode := toJson
  decode := ofTree?
  normal := normalized
  known := ["id", "name", "description", "version", "definitionJson", "status", "createdBy",
    "createdAt", "updatedAt"]
  optionals := ["description", "definitionJson", "createdBy", "updatedAt"]
  admits _ := True

/-- The fields of a record. -/
def fields (record : Record) : List (String × Option Json) :=
  [("id", some (Int64.toJson record.id)), ("name", some (.string record.name)),
    ("description", record.description.map .string), ("version", some (.string record.version)),
    ("definitionJson", record.content.map .string), ("status", some record.status.toJson),
    ("createdBy", record.createdBy.map .string), ("createdAt", some record.createdAt.toJson),
    ("updatedAt", record.updatedAt.map Timestamp.toJson)]

theorem toJson_eq (record : Record) : record.toJson = .object (filled record.fields) := by
  simp [toJson, fields, filled, optionalMember, Option.toList_map, Function.comp_def]

theorem legible_fields (record : Record) :
    ∀ field ∈ record.fields, ∀ json ∈ field.2, json.Legible := by
  simp only [fields, List.forall_mem_cons]
  exact ⟨faithful_int64.legible_some _, faithful_string.legible_some _,
    faithful_string.legible_map _, faithful_string.legible_some _, faithful_string.legible_map _,
    faithful_status.legible_some _, faithful_string.legible_map _,
    faithful_timestamp.legible_some _, faithful_timestamp.legible_map _, List.forall_mem_nil _⟩

theorem ofTree?_ofJson (record : Record) :
    ofTree? (ofJson record.toJson) = some record.normalized := by
  have distinct : (record.fields.map Prod.fst).Nodup := by
    show format.known.Nodup
    decide
  rw [toJson_eq, ofJson]
  show (ParseTree.membersByName? (record.fields.map Prod.fst) _).bind _ = _
  rw [membersByName?_filled distinct, Option.bind_some]
  simp only [fields, List.map_cons, List.map_nil, Option.map_some, faithful_int64.required,
    faithful_string.required, faithful_string.optional, faithful_status.required,
    faithful_timestamp.required, faithful_timestamp.optional, Option.map_id]
  rfl

theorem readsByName : ReadsByName format.known format.optionals format.admits ofTree? := by
  refine ParseTree.readsByName_of_fields (fun members => rfl) fun place other agrees => ?_
  simp (disch := decide) only [format, List.map_cons, List.map_nil, agrees.eq, agrees.optional]

theorem sound : format.Sound :=
  ObjectFormat.sound_of_fields fields toJson_eq legible_fields ofTree?_ofJson readsByName

theorem normal_of_ofTree? {tree : ParseTree} {record : Record} (read : ofTree? tree = some record) :
    ∀ t ∈ record.times, t.Normal := by
  obtain ⟨places, -, read⟩ := Option.bind_eq_some_iff.mp read
  split at read
  · simp only [Option.bind_eq_bind, Option.bind_eq_some_iff] at read
    -- the fields before the two times
    iterate 7 obtain ⟨_, -, read⟩ := read
    obtain ⟨createdAt, created, updatedAt, updated, same⟩ := read
    cases same
    obtain ⟨_, -, created⟩ := Option.bind_eq_some_iff.mp created
    refine List.forall_mem_cons.mpr ⟨Timestamp.normal_of_ofTree? created, fun t member => ?_⟩
    obtain rfl := Option.mem_toList.mp member
    obtain ⟨_, updated⟩ := ParseTree.exists_of_optional updated
    exact Timestamp.normal_of_ofTree? updated
  · cases read

end Record

/-! ## Runs -/

namespace Run

/-- The times that a run names. -/
def times (run : Run) : List Timestamp :=
  run.startedAt :: run.completedAt.toList

/-- A run with its times as they are read. -/
def normalized (run : Run) : Run :=
  { run with
    startedAt := run.startedAt.normalized
    completedAt := run.completedAt.map Timestamp.normalized }

theorem normalized_eq_self_iff {run : Run} :
    run.normalized = run ↔ ∀ t ∈ run.times, t.Normal := by
  obtain ⟨id, definitionId, name, status, currentStep, startedBy, startedAt, completedAt,
    executionTimeMs, errorMessage⟩ := run
  cases completedAt <;> simp [normalized, times, Timestamp.normalized_eq_self_iff]

/-- The format of runs. -/
def format : ObjectFormat Run where
  encode := toJson
  decode := ofTree?
  normal := normalized
  known := ["id", "workflowDefinitionId", "instanceName", "status", "currentStep", "startedBy",
    "startedAt", "completedAt", "executionTimeMs", "errorMessage"]
  optionals := ["currentStep", "startedBy", "completedAt", "executionTimeMs", "errorMessage"]
  admits _ := True

/-- The fields of a run. -/
def fields (run : Run) : List (String × Option Json) :=
  [("id", some (Int64.toJson run.id)),
    ("workflowDefinitionId", some (Int64.toJson run.definitionId)),
    ("instanceName", some (.string run.name)), ("status", some run.status.toJson),
    ("currentStep", run.currentStep.map .string), ("startedBy", run.startedBy.map .string),
    ("startedAt", some run.startedAt.toJson), ("completedAt", run.completedAt.map Timestamp.toJson),
    ("executionTimeMs", run.executionTimeMs.map Int64.toJson),
    ("errorMessage", run.errorMessage.map .string)]

theorem toJson_eq (run : Run) : run.toJson = .object (filled run.fields) := by
  simp [toJson, fields, filled, optionalMember, Option.toList_map, Function.comp_def]

theorem legible_fields (run : Run) : ∀ field ∈ run.fields, ∀ json ∈ field.2, json.Legible := by
  simp only [fields, List.forall_mem_cons]
  exact ⟨faithful_int64.legible_some _, faithful_int64.legible_some _,
    faithful_string.legible_some _, faithful_runStatus.legible_some _,
    faithful_string.legible_map _, faithful_string.legible_map _,
    faithful_timestamp.legible_some _, faithful_timestamp.legible_map _,
    faithful_int64.legible_map _, faithful_string.legible_map _, List.forall_mem_nil _⟩

theorem ofTree?_ofJson (run : Run) : ofTree? (ofJson run.toJson) = some run.normalized := by
  have distinct : (run.fields.map Prod.fst).Nodup := by
    show format.known.Nodup
    decide
  rw [toJson_eq, ofJson]
  show (ParseTree.membersByName? (run.fields.map Prod.fst) _).bind _ = _
  rw [membersByName?_filled distinct, Option.bind_some]
  simp only [fields, List.map_cons, List.map_nil, Option.map_some, faithful_int64.required,
    faithful_int64.optional, faithful_string.required, faithful_string.optional,
    faithful_runStatus.required, faithful_timestamp.required, faithful_timestamp.optional,
    Option.map_id]
  rfl

theorem readsByName : ReadsByName format.known format.optionals format.admits ofTree? := by
  refine ParseTree.readsByName_of_fields (fun members => rfl) fun place other agrees => ?_
  simp (disch := decide) only [format, List.map_cons, List.map_nil, agrees.eq, agrees.optional]

theorem sound : format.Sound :=
  ObjectFormat.sound_of_fields fields toJson_eq legible_fields ofTree?_ofJson readsByName

end Run

/-! ## Payloads -/

namespace Payload

/-- The format of payloads. -/
def format : ObjectFormat Payload where
  encode := toJson
  decode := ofTree?
  known := memberNames
  optionals := ["description"]
  admits _ := True

/-- The fields of a payload. -/
def fields (payload : Payload) : List (String × Option Json) :=
  [("name", some (.string payload.name)), ("version", some (.string payload.version)),
    ("definitionJson", some (.string payload.content)),
    ("description", payload.description.map .string)]

theorem members_eq (payload : Payload) : payload.members = filled payload.fields := by
  simp [members, fields, filled, optionalMember, Option.toList_map, Function.comp_def]

theorem legible_fields (payload : Payload) :
    ∀ field ∈ payload.fields, ∀ json ∈ field.2, json.Legible := by
  simp only [fields, List.forall_mem_cons]
  exact ⟨faithful_string.legible_some _, faithful_string.legible_some _,
    faithful_string.legible_some _, faithful_string.legible_map _, List.forall_mem_nil _⟩

theorem ofFields?_fields (payload : Payload) :
    ofFields? (payload.fields.map fun field => field.2.map ofJson) = some payload := by
  simp only [ofFields?, fields, List.map_cons, List.map_nil, Option.map_some,
    faithful_string.required, faithful_string.optional, Option.map_id]
  rfl

theorem ofTree?_ofJson (payload : Payload) : ofTree? (ofJson payload.toJson) = some payload := by
  have distinct : (payload.fields.map Prod.fst).Nodup := by
    show memberNames.Nodup
    decide
  rw [toJson, members_eq, ofJson]
  show (ParseTree.membersByName? (payload.fields.map Prod.fst) _).bind ofFields? = _
  rw [membersByName?_filled distinct, Option.bind_some, ofFields?_fields]

theorem ofFields?_congr {place other : String → Option ParseTree}
    (agrees : Agrees memberNames ["description"] place other) :
    ofFields? (memberNames.map other) = ofFields? (memberNames.map place) := by
  simp (disch := decide) only [memberNames, List.map_cons, List.map_nil, ofFields?, agrees.eq,
    agrees.optional]

theorem readsByName : ReadsByName format.known format.optionals format.admits ofTree? :=
  ParseTree.readsByName_of_fields (fun _ => rfl) fun _ _ => ofFields?_congr

theorem sound : format.Sound :=
  ObjectFormat.sound_of_fields fields (fun payload => congrArg Json.object payload.members_eq)
    legible_fields ofTree?_ofJson readsByName

end Payload

/-! ## Creation requests -/

namespace Creation

/-- How deep the value of a member may nest. -/
def room : Nat :=
  Json.maxDepth - 1

/-- The format of creation requests, which admits only values that can be held. -/
def format : ObjectFormat Creation where
  encode := toJson
  decode := ofTree?
  known := Payload.memberNames ++ ["status"]
  optionals := ["description"]
  admits tree := (tree.toJson? room).isSome

/-- The fields of a creation request. -/
def fields (creation : Creation) : List (String × Option Json) :=
  creation.payload.fields ++ [("status", some creation.status.toJson)]

theorem toJson_eq (creation : Creation) : creation.toJson = .object (filled creation.fields) := by
  rw [toJson, creation.payload.members_eq, fields]
  simp [filled]

theorem legible_fields (creation : Creation) :
    ∀ field ∈ creation.fields, ∀ json ∈ field.2, json.Legible := by
  rw [fields, List.forall_mem_append, List.forall_mem_singleton]
  exact ⟨creation.payload.legible_fields, faithful_status.legible_some _⟩

/-- A creation request from its fields. -/
def ofFields? (fields : List (Option ParseTree)) : Option Creation := do
  let [name, version, content, description, status] := fields | none
  return ⟨← Payload.ofFields? [name, version, content, description],
    ← ParseTree.required Status.ofTree? status⟩

theorem ofFields?_eq (place : String → Option ParseTree) :
    ofFields? (format.known.map place) =
      (Payload.ofFields? (Payload.memberNames.map place)).bind fun payload =>
        (ParseTree.required Status.ofTree? (place "status")).bind fun status =>
          some ⟨payload, status⟩ := rfl

/-- The status is picked out of all members, and the payload again out of all of them. -/
theorem ofTree?_eq (tree : ParseTree) :
    ofTree? tree = (tree.openFields? ["status"] room).bind fun places =>
      match places with
      | [status] => (tree.openFields? Payload.memberNames room).bind fun payload =>
        (Payload.ofFields? payload).bind fun payload =>
          (ParseTree.required Status.ofTree? status).bind fun status => some ⟨payload, status⟩
      | _ => none := rfl

variable {members : List (Option String × ParseTree)}

/-- Where every value can be held, the payload and the status are read as the fields of one
object. -/
theorem ofTree?_of_held (held : ∀ member ∈ members, (member.2.toJson? room).isSome) :
    ofTree? (.object members) =
      (ParseTree.membersByName? format.known members).bind ofFields? := by
  have read (names : List String) : (ParseTree.object members).openFields? names room =
      ParseTree.membersByName? names members := ParseTree.openFields?_of_held held
  rw [ofTree?_eq, read, read]
  by_cases keyed : Keyed format.known members
  · obtain ⟨payload, status⟩ := ParseTree.keyed_append_iff.mp keyed
    rw [ParseTree.membersByName?_eq_some_iff.mpr ⟨keyed, rfl⟩,
      ParseTree.membersByName?_eq_some_iff.mpr ⟨payload, rfl⟩,
      ParseTree.membersByName?_eq_some_iff.mpr ⟨status, rfl⟩]
    rfl
  · rw [ParseTree.membersByName?_eq_none keyed]
    by_cases status : Keyed ["status"] members
    · have unkeyed : ¬ Keyed Payload.memberNames members := fun payload =>
        keyed (ParseTree.keyed_append_iff.mpr ⟨payload, status⟩)
      rw [ParseTree.membersByName?_eq_none unkeyed,
        ParseTree.membersByName?_eq_some_iff.mpr ⟨status, rfl⟩]
      rfl
    · rw [ParseTree.membersByName?_eq_none status]
      rfl

/-- Each of the two times, everything else is held. -/
theorem ofTree?_eq_none (unheld : ∃ member ∈ members, member.2.toJson? room = none) :
    ofTree? (.object members) = none := by
  obtain ⟨⟨key, value⟩, present, unheld⟩ := unheld
  rw [ofTree?_eq]
  by_cases isStatus : key = some "status"
  · have payload : (ParseTree.object members).openFields? Payload.memberNames room = none := by
      refine ParseTree.openFields?_eq_none present unheld fun name listed same => ?_
      rw [isStatus, Option.some.injEq] at same
      exact absurd (same ▸ listed) (by decide)
    rw [payload]
    cases (ParseTree.object members).openFields? ["status"] room with
    | none => rfl
    | some places =>
        rw [Option.bind_some]
        split <;> rfl
  · have status : (ParseTree.object members).openFields? ["status"] room = none := by
      refine ParseTree.openFields?_eq_none present unheld fun name listed same => ?_
      rw [List.mem_singleton.mp listed] at same
      exact isStatus same
    rw [status]
    rfl

/-- What is written can be held. -/
theorem held_fields (creation : Creation) :
    ∀ member ∈ ofMembers (filled creation.fields), (member.2.toJson? room).isSome := by
  have within : ∀ entry ∈ filled creation.fields, entry.2.Within room := by
    have text (value : Option String) : ∀ json ∈ value.map Json.string, json.Within room := by
      intro json given
      obtain ⟨text, -, rfl⟩ := Option.map_eq_some_iff.mp given
      exact .string text
    refine forall_mem_filled ?_
    simp only [fields, Payload.fields, List.cons_append, List.nil_append, List.forall_mem_cons]
    exact ⟨text (some _), text (some _), text (some _), text _, text (some creation.status.name),
      List.forall_mem_nil _⟩
  have whole := ParseTree.membersToJson?_ofMembers fun entry member =>
    ParseTree.toJson?_ofJson (within entry member)
  intro member present
  exact (ParseTree.isSome_membersToJson?_iff.mp (Option.isSome_of_eq_some whole) member present).2

theorem ofTree?_ofJson (creation : Creation) :
    ofTree? (ofJson creation.toJson) = some creation := by
  have distinct : (creation.fields.map Prod.fst).Nodup := by
    show format.known.Nodup
    decide
  rw [toJson_eq, ofJson, ofTree?_of_held creation.held_fields]
  show (ParseTree.membersByName? (creation.fields.map Prod.fst) _).bind ofFields? = _
  rw [membersByName?_filled distinct, Option.bind_some]
  show (Payload.ofFields? (creation.payload.fields.map fun field => field.2.map ofJson)).bind _ = _
  rw [creation.payload.ofFields?_fields, Option.bind_some]
  show (ParseTree.required Status.ofTree? (some (ofJson creation.status.toJson))).bind _ = _
  rw [faithful_status.required]
  rfl

theorem readsByName : ReadsByName format.known format.optionals format.admits ofTree? where
  admits_null := rfl
  refuses := by
    rintro members ⟨member, present, barred⟩
    exact ofTree?_eq_none ⟨member, present, Option.not_isSome_iff_eq_none.mp barred⟩
  by_name := by
    refine ⟨ofFields?, fun members held => ofTree?_of_held held, fun place other agrees => ?_⟩
    have payload := Payload.ofFields?_congr fun name listed =>
      agrees name (List.mem_append_left _ listed)
    have status : other "status" = place "status" := agrees.eq (by decide) (by decide)
    rw [ofFields?_eq, ofFields?_eq, payload, status]

theorem sound : format.Sound :=
  ObjectFormat.sound_of_fields fields toJson_eq legible_fields ofTree?_ofJson readsByName

end Creation

/-! ## The envelope -/

/-- Of an envelope only the content matters. -/
theorem envelopeData?_readsByName {α : Type} (decode : ParseTree → Option α) :
    ReadsByName ["data"] [] (fun _ => True) (envelopeData? decode) := by
  refine ParseTree.readsByName_of_fields (fun members => rfl) fun place other agrees => ?_
  simp (disch := decide) only [List.map_cons, List.map_nil, agrees.eq]

/-- Records, runs, payloads and creation requests survive the wire. Every payload and every creation
request is decoded from its text, and so are the records and runs in whose times a leap second
comes at the end of a minute only; of any other time the normal form is decoded, and everything
else as it was. No text is decoded differently for another order of its members, for `null` under
what is absent, or for members that the format does not know. In a creation request these must
have values that can be held, since a request with any other value is refused. What arrives in an
envelope is decoded as if it had arrived alone, whatever else the envelope holds. -/
theorem wire_sound :
    (Record.format.Sound ∧
      ∀ record : Record, Record.format.Survives record ↔ ∀ t ∈ record.times, t.Normal) ∧
    (Run.format.Sound ∧ ∀ run : Run, Run.format.Survives run ↔ ∀ t ∈ run.times, t.Normal) ∧
    (Payload.format.Sound ∧ ∀ payload, Payload.format.Survives payload) ∧
    (Creation.format.Sound ∧ ∀ creation, Creation.format.Survives creation) ∧
    (∀ text members, ParseTree.read text = some (.object members) →
      (∃ member ∈ members, member.2.toJson? (Json.maxDepth - 1) = none) →
      Creation.format.ofText? text = none) ∧
    ∀ text content envelope members, ParseTree.read text = some content →
      ParseTree.read envelope = some (.object members) →
      Restates ["data"] [] (fun _ => True) [(some "data", content)] members →
      (ParseTree.read envelope).bind (envelopeData? Record.ofTree?) =
        Record.format.ofText? text := by
  refine ⟨⟨Record.sound, fun record => ?_⟩, ⟨Run.sound, fun run => ?_⟩,
    ⟨Payload.sound, Payload.sound.ofText?_text⟩, ⟨Creation.sound, Creation.sound.ofText?_text⟩,
    ?_, ?_⟩
  · exact Record.sound.survives_iff.trans Record.normalized_eq_self_iff
  · exact Run.sound.survives_iff.trans Run.normalized_eq_self_iff
  · intro text members reading unheld
    rw [ObjectFormat.ofText?, reading]
    exact Creation.ofTree?_eq_none unheld
  · intro text content envelope members reading opening restates
    rw [ObjectFormat.ofText?, reading, opening]
    exact (envelopeData?_readsByName Record.ofTree?).decode_eq restates

/-! ## A leap second within a minute, and a value that cannot be held -/

/-- A record of half past noon and a leap second and a half. -/
def Record.midMinute : Record where
  id := 1
  name := "a"
  description := none
  version := "1"
  content := none
  status := .active
  createdBy := none
  createdAt := ⟨2024, 5, 1, 12, 30, 30, 1500000000, by decide⟩
  updatedAt := none

/-- `null` within a number of arrays. -/
def Json.nested : Nat → Json
  | 0 => .null
  | depth + 1 => .array [nested depth]

theorem Json.legible_nested (depth : Nat) : (nested depth).Legible := by
  induction depth with
  | zero => exact .null
  | succ depth ih =>
      refine .array fun item member => ?_
      rw [List.mem_singleton.mp member]
      exact ih

/-- Arrays can be held as deep as there is room. -/
theorem ParseTree.isSome_toJson?_nested (depth room : Nat) :
    ((ofJson (.nested depth)).toJson? room).isSome ↔ depth ≤ room := by
  induction depth generalizing room with
  | zero => exact iff_of_true rfl (Nat.zero_le room)
  | succ depth ih =>
      cases room with
      | zero => exact iff_of_false (by simp [Json.nested, ofJson, toJson?]) (by omega)
      | succ room =>
          rw [Nat.succ_le_succ_iff, ← ih room]
          cases read : (ofJson (.nested depth)).toJson? room <;>
            simp [Json.nested, ofJson, ParseTree.ofItems, toJson?, itemsToJson?, read]

namespace Creation

/-- A request to store an empty definition. -/
def plain : Creation :=
  .active ⟨"a", "1", "{}", none⟩

/-- The same request with one more member, which its format does not know. -/
def laden (depth : Nat) : Json :=
  .object (filled plain.fields ++ [("extra", .nested depth)])

theorem read_laden (depth : Nat) : ParseTree.read (laden depth).compact =
    some (.object (ofMembers (filled plain.fields) ++
      [(some "extra", ofJson (.nested depth))])) := by
  have legible : (laden depth).Legible :=
    .object (List.forall_mem_append.mpr ⟨forall_mem_filled plain.legible_fields,
      List.forall_mem_singleton.mpr (Json.legible_nested depth)⟩)
  rw [legible.read_compact, laden, ofJson, ofMembers_append]
  rfl

/-- Whatever the member holds, the request says the same with it as without it. -/
theorem rewords_laden (depth : Nat) :
    format.Rewords (fun _ => True) (format.text plain) (laden depth).compact := by
  have read : ParseTree.read (format.text plain) =
      some (.object (ofMembers (filled plain.fields))) :=
    (Json.Legible.object (forall_mem_filled plain.legible_fields)).read_compact
  have unknown : "extra" ∉ format.known := by decide
  refine ⟨_, _, read, read_laden depth, .intro [] [("extra", ofJson (.nested depth))]
    List.nodup_nil (fun _ absent => absurd absent List.not_mem_nil) ?_ (.of_eq ?_)⟩
  · exact List.forall_mem_singleton.mpr ⟨unknown, trivial⟩
  · rw [List.map_nil, List.append_nil]
    rfl

theorem laden_refused {depth : Nat} (deep : room < depth) :
    format.ofText? (laden depth).compact = none := by
  rw [ObjectFormat.ofText?, read_laden]
  refine ofTree?_eq_none ⟨_, List.mem_append_right _ List.mem_cons_self, ?_⟩
  exact Option.not_isSome_iff_eq_none.mp
    (mt (ParseTree.isSome_toJson?_nested depth room).mp (Nat.not_le.mpr deep))

end Creation

/-- A leap second within a minute arrives as the second after it, and with a member that nests too
deep a creation request is refused, though it says the same as without. So not every record
survives, nor does a request survive every member that its format does not know. -/
theorem not_every_value_survives :
    (Record.format.ofText? (Record.format.text Record.midMinute) =
        some { Record.midMinute with
          createdAt := ⟨2024, 5, 1, 12, 30, 31, 500000000, by decide⟩ } ∧
      ¬ Record.format.Survives Record.midMinute) ∧
    Creation.format.Survives Creation.plain ∧
    Creation.format.Rewords (fun _ => True) (Creation.format.text Creation.plain)
      (Creation.laden 127).compact ∧
    Creation.format.ofText? (Creation.laden 127).compact = none ∧
    ¬ { Creation.format with admits := fun _ => True }.Sound := by
  have carried : Record.midMinute.normalized = { Record.midMinute with
      createdAt := ⟨2024, 5, 1, 12, 30, 31, 500000000, by decide⟩ } := by rfl
  have plain : Creation.format.Survives Creation.plain := Creation.sound.ofText?_text _
  have refused : Creation.format.ofText? (Creation.laden 127).compact = none :=
    Creation.laden_refused (by decide)
  refine ⟨⟨carried ▸ Record.sound.ofText?_text _, fun survives => ?_⟩, plain,
    Creation.rewords_laden 127, refused, fun all => ?_⟩
  · have same := Record.sound.survives_iff.mp survives
    exact absurd same (by decide)
  · have same : Creation.format.ofText? (Creation.laden 127).compact =
        Creation.format.ofText? (Creation.format.text Creation.plain) :=
      all.ofText?_reworded _ _ (Creation.rewords_laden 127)
    rw [refused, plain] at same
    cases same

end Workflow
