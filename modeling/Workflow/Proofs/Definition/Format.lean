import Workflow.Proofs.Definition.Reload

/-!
# Which values are definitions

The format of a definition, said without the order in which it is read. An object is a
definition when its list of steps, if it has one, holds well-shaped entries and no two of
them get the same name. `Rejected` says which error any other value gets: that of the first
entry that is ill-shaped or whose name an earlier entry already has.

A name that stands in a definition and one that is made up from a type and an index can be
the same, in either order. So names are compared only after both kinds are there.
-/

namespace Workflow

namespace Entry

/-- An entry from which a step can be made: an object with a type that is not blank and
with a name that is text, unless it is missing or null. -/
structure WellShaped (entry : Json) : Prop where
  object : ∃ members, entry = .object members
  typed : ∃ type, entry.member? "type" = some (.string type) ∧ isBlank type = false
  named : ∀ value, entry.member? "name" = some value →
    value = .null ∨ ∃ name, value = .string name

/-- What is wrong with the shape of an entry. Its type comes before its name. -/
inductive Misshapen (index : Nat) (entry : Json) : DefinitionDefect → Prop
  | object : (∀ members, entry ≠ .object members) → Misshapen index entry (.stepNotObject index)
  | type {members : List (String × Json)} : entry = .object members →
      (∀ type, entry.member? "type" = some (.string type) → isBlank type = true) →
      Misshapen index entry (.stepWithoutType index)
  | name {type : String} {value : Json} :
      entry.member? "type" = some (.string type) → isBlank type = false →
      entry.member? "name" = some value → value ≠ .null → (∀ name, value ≠ .string name) →
      Misshapen index entry (.nameNotText index)

/-- The name in an entry, if it is text that is not blank. -/
def ownName? (entry : Json) : Option String :=
  match entry.member? "name" with
  | some (.string name) => if isBlank name then none else some name
  | _ => none

/-- The type in an entry, if it is text. -/
def type? (entry : Json) : Option String :=
  match entry.member? "type" with
  | some (.string type) => some type
  | _ => none

/-- The name that the entry at an index gets: its own, or else one from its type and index. -/
def stepName (index : Nat) (entry : Json) : String :=
  (ownName? entry).getD ((type? entry).getD "" ++ "-" ++ toString index)

/-- The names that entries get, the first of which has the given index. -/
def stepNames (index : Nat) (entries : List Json) : List String :=
  (entries.zipIdx index).map fun (entry, index) => stepName index entry

/-- The step that is made from an entry. All members but name and type become fields; the
keys of an object that was read are different. -/
structure Makes (index : Nat) (entry : Json) (node : StepNode) : Prop where
  name_eq : node.name = stepName index entry
  type_eq : entry.member? "type" = some (.string node.type)
  label_eq : node.label = (ownName? entry).getD (node.type ++ " Node")
  fields_eq : ∀ members, entry = .object members → (members.map Prod.fst).Nodup → ∀ key,
    node.fields.get? key = if key = "name" ∨ key = "type" then none else entry.member? key
  position_eq : node.position = .grid index

/-- Why an entry does not get in beside steps with the given names. -/
inductive Refused (taken : List String) (index : Nat) (entry : Json) : LoadError → Prop
  | misshapen {defect : DefinitionDefect} : Misshapen index entry defect →
      Refused taken index entry (.malformed defect)
  | duplicate : WellShaped entry → stepName index entry ∈ taken →
      Refused taken index entry (.graph (.duplicateName (stepName index entry)))

@[simp] theorem stepNames_nil (index : Nat) : stepNames index [] = [] :=
  rfl

@[simp] theorem stepNames_cons (index : Nat) (entry : Json) (rest : List Json) :
    stepNames index (entry :: rest) = stepName index entry :: stepNames (index + 1) rest :=
  rfl

end Entry

namespace Graph

open Entry

/-! ## One entry -/

section

variable {index : Nat} {members : List (String × Json)} {entry : Json}
  {defect : DefinitionDefect}

theorem entryType_eq_ok_iff {type : String} : entryType index members = .ok type ↔
    members.lookup "type" = some (.string type) ∧ isBlank type = false := by
  unfold entryType
  cases members.lookup "type" with
  | none => simp
  | some value =>
      cases value with
      | string found =>
          simp only [Option.some.injEq, Json.string.injEq]
          constructor
          · intro h
            split at h
            · cases h
            · rename_i named
              cases h
              exact ⟨rfl, by simpa using named⟩
          · rintro ⟨rfl, named⟩
            simp [named]
      | null | bool _ | number _ | array _ | object _ => simp

theorem entryType_eq_error_iff : entryType index members = .error defect ↔
    (∀ type, members.lookup "type" = some (.string type) → isBlank type = true) ∧
      .stepWithoutType index = defect := by
  unfold entryType
  cases members.lookup "type" with
  | none => simp
  | some value =>
      cases value with
      | string found => by_cases blank : isBlank found = true <;> simp [blank]
      | null | bool _ | number _ | array _ | object _ => simp

theorem entryName?_eq_ok_iff {name? : Option String} : entryName? index members = .ok name? ↔
    (∀ value, members.lookup "name" = some value → value = .null ∨ ∃ name, value = .string name) ∧
      ownName? (.object members) = name? := by
  rw [entryName?, ownName?, Json.member?]
  cases members.lookup "name" with
  | none => simp
  | some value => cases value <;> simp

theorem entryName?_eq_error_iff : entryName? index members = .error defect ↔
    (∃ value, members.lookup "name" = some value ∧ value ≠ .null ∧
      ∀ name, value ≠ .string name) ∧ .nameNotText index = defect := by
  unfold entryName?
  cases members.lookup "name" with
  | none => simp
  | some value => cases value <;> simp

/-- An entry that describes a step is well shaped, and the step is the one it makes. -/
theorem nodeOfEntry_eq_ok {node : StepNode} (h : nodeOfEntry index entry = .ok node) :
    WellShaped entry ∧ Makes index entry node := by
  cases entry with
  | object members =>
      rw [nodeOfEntry_object, Except.bind_eq_ok_iff] at h
      obtain ⟨type, typeRead, h⟩ := h
      obtain ⟨_, nameRead, h⟩ := Except.bind_eq_ok_iff.mp h
      cases h
      obtain ⟨typed, notBlank⟩ := entryType_eq_ok_iff.mp typeRead
      obtain ⟨named, rfl⟩ := entryName?_eq_ok_iff.mp nameRead
      have found : type? (.object members) = some type := by
        simp [type?, Json.member?, typed]
      refine ⟨⟨⟨members, rfl⟩, ⟨type, typed, notBlank⟩, named⟩, ?_, typed, rfl, ?_, rfl⟩
      · simp [stepName, found]
      · rintro _ same distinct key
        cases same
        exact get?_ofMembers_fieldMembers distinct key
  | null | bool _ | number _ | string _ | array _ => cases h

theorem nodeOfEntry_eq_error_iff :
    nodeOfEntry index entry = .error defect ↔ Misshapen index entry defect := by
  cases entry with
  | object members =>
      rw [nodeOfEntry_object, Except.bind_eq_error_iff, entryType_eq_error_iff]
      constructor
      · rintro (⟨untyped, rfl⟩ | ⟨type, typed, h⟩)
        · exact .type rfl untyped
        · obtain ⟨typed, notBlank⟩ := entryType_eq_ok_iff.mp typed
          rcases Except.bind_eq_error_iff.mp h with misnamed | ⟨_, _, h⟩
          · obtain ⟨⟨value, held, given, noText⟩, rfl⟩ := entryName?_eq_error_iff.mp misnamed
            exact .name typed notBlank held given noText
          · cases h
      · rintro (bare | ⟨-, untyped⟩ | ⟨typed, notBlank, held, given, noText⟩)
        · exact absurd rfl (bare members)
        · exact .inl ⟨untyped, rfl⟩
        · exact .inr ⟨_, entryType_eq_ok_iff.mpr ⟨typed, notBlank⟩,
            Except.bind_eq_error_iff.mpr (.inl (entryName?_eq_error_iff.mpr
              ⟨⟨_, held, given, noText⟩, rfl⟩))⟩
  | null | bool _ | number _ | string _ | array _ =>
      constructor
      · intro h
        cases h
        exact .object (fun _ same => by cases same)
      · rintro (_ | ⟨same, -⟩ | ⟨typed, -, -, -, -⟩)
        · rfl
        · cases same
        · cases typed

/-- Well shaped is what nothing is wrong with. -/
theorem not_misshapen (shaped : WellShaped entry) : ¬ Misshapen index entry defect := by
  obtain ⟨⟨_, rfl⟩, ⟨type, typed, notBlank⟩, named⟩ := shaped
  rintro (bare | ⟨-, untyped⟩ | ⟨-, -, held, given, noText⟩)
  · exact bare _ rfl
  · cases (untyped type typed).symm.trans notBlank
  · rcases named _ held with rfl | ⟨name, rfl⟩
    · exact given rfl
    · exact noText name rfl

theorem exists_nodeOfEntry (index : Nat) (shaped : WellShaped entry) :
    ∃ node, nodeOfEntry index entry = .ok node ∧ node.name = stepName index entry := by
  cases read : nodeOfEntry index entry with
  | ok node => exact ⟨node, rfl, (nodeOfEntry_eq_ok read).2.name_eq⟩
  | error defect => exact absurd (nodeOfEntry_eq_error_iff.mp read) (not_misshapen shaped)

end

/-! ## A list of entries -/

section

variable {graph : Graph} {index : Nat} {entry : Json} {error : LoadError}

theorem enter_eq_error_iff :
    graph.enter index entry = .error error ↔ Refused graph.names index entry error := by
  rw [enter, Except.bind_eq_error_iff]
  simp only [Except.mapError_eq_error_iff, Except.mapError_eq_ok_iff, insertStep_eq_error_iff]
  constructor
  · rintro (⟨defect, misread, rfl⟩ | ⟨node, read, _, ⟨taken, rfl⟩, rfl⟩)
    · exact .misshapen (nodeOfEntry_eq_error_iff.mp misread)
    · obtain ⟨shaped, made⟩ := nodeOfEntry_eq_ok read
      rw [made.name_eq] at taken ⊢
      exact .duplicate shaped taken
  · rintro (misshapen | ⟨shaped, taken⟩)
    · exact .inl ⟨_, nodeOfEntry_eq_error_iff.mpr misshapen, rfl⟩
    · obtain ⟨node, read, named⟩ := exists_nodeOfEntry index shaped
      rw [← named] at taken ⊢
      exact .inr ⟨node, read, _, ⟨taken, rfl⟩, rfl⟩

/-- Entries are refused for the first of them that is, all before it being well shaped and
under different names. What comes after it has no part in this. -/
theorem insertEntries_eq_error_iff {entries : List Json} (distinct : graph.names.Nodup) :
    graph.insertEntries index entries = .error error ↔
      ∃ before entry after, entries = before ++ entry :: after ∧
        (∀ earlier ∈ before, WellShaped earlier) ∧
        (graph.names ++ stepNames index before).Nodup ∧
        Refused (graph.names ++ stepNames index before) (index + before.length) entry error := by
  induction entries generalizing graph index with
  | nil => simp [insertEntries]
  | cons first rest ih =>
      rw [insertEntries_cons, Except.bind_eq_error_iff, enter_eq_error_iff]
      constructor
      · rintro (refused | ⟨_, entered, later⟩)
        · exact ⟨[], first, rest, rfl, by simp, by simpa using distinct, by simpa using refused⟩
        · obtain ⟨node, read, free, rfl⟩ := enter_eq_ok_iff.mp entered
          obtain ⟨shaped, made⟩ := nodeOfEntry_eq_ok read
          obtain ⟨before, entry, after, rfl, shapes, unique, refused⟩ :=
            (ih (nodup_names_append distinct free)).mp later
          refine ⟨first :: before, entry, after, rfl, List.forall_mem_cons.mpr ⟨shaped, shapes⟩,
            ?_, ?_⟩
          · simpa [names, made.name_eq] using unique
          · simpa [names, made.name_eq, Nat.add_assoc, Nat.add_comm 1] using refused
      · rintro ⟨before, entry, after, split, shapes, unique, refused⟩
        cases before with
        | nil =>
            cases split
            exact .inl (by simpa using refused)
        | cons _ before =>
            cases split
            obtain ⟨shaped, shapes⟩ := List.forall_mem_cons.mp shapes
            obtain ⟨node, read, named⟩ := exists_nodeOfEntry index shaped
            have free : node.name ∉ graph.names := by
              intro taken
              exact (List.nodup_append.mp unique).2.2 _ taken _ (by simp [named]) rfl
            refine .inr ⟨_, enter_eq_ok_iff.mpr ⟨node, read, free, rfl⟩,
              (ih (nodup_names_append distinct free)).mpr
                ⟨before, entry, after, rfl, shapes, ?_, ?_⟩⟩
            · simpa [names, named] using unique
            · simpa [names, named, Nat.add_assoc, Nat.add_comm 1] using refused

/-- Conversely, steps are made from all entries that are well shaped. -/
theorem exists_entryNodes_of_wellShaped {entries : List Json}
    (shapes : ∀ entry ∈ entries, WellShaped entry) :
    ∃ nodes, EntryNodes index entries nodes ∧
      nodes.map StepNode.name = stepNames index entries := by
  induction entries generalizing index with
  | nil => exact ⟨[], entryNodes_nil.mpr rfl, rfl⟩
  | cons entry rest ih =>
      obtain ⟨shaped, shapes⟩ := List.forall_mem_cons.mp shapes
      obtain ⟨node, read, named⟩ := exists_nodeOfEntry index shaped
      obtain ⟨nodes, described, names⟩ := ih shapes
      refine ⟨node :: nodes, entryNodes_cons.mpr ⟨node, nodes, read, described, rfl⟩, ?_⟩
      rw [List.map_cons, named, names, stepNames_cons]

/-- The steps that entries describe are made from them, one for one. -/
theorem EntryNodes.makes {entries : List Json} {nodes : List StepNode}
    (described : EntryNodes index entries nodes) :
    (∀ entry ∈ entries, WellShaped entry) ∧
      nodes.map StepNode.name = stepNames index entries ∧
      List.Forall₂ (fun entry node => Makes entry.2 entry.1 node)
        (entries.zipIdx index) nodes := by
  induction entries generalizing index nodes with
  | nil =>
      cases entryNodes_nil.mp described
      exact ⟨by simp, rfl, .nil⟩
  | cons entry rest ih =>
      obtain ⟨node, others, read, following, rfl⟩ := entryNodes_cons.mp described
      obtain ⟨shaped, made⟩ := nodeOfEntry_eq_ok read
      obtain ⟨shapes, names, makes⟩ := ih following
      refine ⟨List.forall_mem_cons.mpr ⟨shaped, shapes⟩, ?_, .cons made makes⟩
      rw [List.map_cons, made.name_eq, names, stepNames_cons]

end

/-! ## Whole definitions -/

/-- The entries of a definition's list of steps; a list that is missing or null has none. -/
inductive Lists (members : List (String × Json)) : List Json → Prop
  | missing : members.lookup "steps" = none → Lists members []
  | null : members.lookup "steps" = some .null → Lists members []
  | array {entries : List Json} : members.lookup "steps" = some (.array entries) →
      Lists members entries

/-- The values that are definitions. -/
def Acceptable (value : Json) : Prop :=
  ∃ members entries, value = .object members ∧ Lists members entries ∧
    (∀ entry ∈ entries, WellShaped entry) ∧ (stepNames 0 entries).Nodup

/-- Why a value is not a definition. -/
inductive Rejected : Json → LoadError → Prop
  | notObject {value : Json} : (∀ members, value ≠ .object members) →
      Rejected value (.malformed .notObject)
  | stepsNotArray {members : List (String × Json)} {steps : Json} :
      members.lookup "steps" = some steps → steps ≠ .null →
      (∀ entries, steps ≠ .array entries) →
      Rejected (.object members) (.malformed .stepsNotArray)
  /-- The entries before it would have made a graph. -/
  | entry {members : List (String × Json)} {before after : List Json} {entry : Json}
      {error : LoadError} : Lists members (before ++ entry :: after) →
      (∀ earlier ∈ before, WellShaped earlier) → (stepNames 0 before).Nodup →
      Refused (stepNames 0 before) before.length entry error →
      Rejected (.object members) error

/-- The graph that is built from entries: a step from each of them, an edge from each step
to the next one, and no number used for a generated name. -/
structure BuiltFrom (graph : Graph) (entries : List Json) : Prop where
  steps : List.Forall₂ (fun entry node => Makes entry.2 entry.1 node) entries.zipIdx graph.steps
  edges : graph.edges.map (fun edge => (edge.source, edge.target)) =
    graph.names.zip graph.names.tail
  edgeIds_nodup : graph.edgeIds.Nodup
  lastSuffix : graph.lastSuffix = 0

section

variable {members : List (String × Json)} {entries : List Json}

theorem stepEntries_eq_ok_iff : stepEntries members = .ok entries ↔ Lists members entries := by
  constructor
  · intro h
    unfold stepEntries at h
    split at h
    · rename_i missing
      cases h
      exact .missing missing
    · rename_i null
      cases h
      exact .null null
    · rename_i held
      cases h
      exact .array held
    · cases h
  · rintro (missing | null | held)
    · simp [stepEntries, missing]
    · simp [stepEntries, null]
    · simp [stepEntries, held]

theorem stepEntries_eq_error_iff {defect : DefinitionDefect} :
    stepEntries members = .error defect ↔
      (∃ steps, members.lookup "steps" = some steps ∧ steps ≠ .null ∧
        ∀ entries, steps ≠ .array entries) ∧ .stepsNotArray = defect := by
  unfold stepEntries
  cases members.lookup "steps" with
  | none => simp
  | some steps => cases steps <;> simp

/-- Once its entries are in, a definition has a graph: every step that is to be joined is
there by then. -/
theorem exists_connectChain (graph : Graph) :
    ∃ joined, graph.connectChain graph.names = .ok joined := by
  obtain ⟨_, joined, -⟩ := connectChain_eq_ok graph graph.names fun _ member => member
  exact ⟨_, joined⟩

theorem exists_ofJson_iff {value : Json} :
    (∃ graph, ofJson value = .ok graph) ↔ Acceptable value := by
  constructor
  · rintro ⟨graph, loaded⟩
    obtain ⟨members, entries, nodes, rfl, listed, described, unique, -⟩ :=
      ofJson_eq_ok_iff.mp loaded
    obtain ⟨shapes, names, -⟩ := described.makes
    exact ⟨members, entries, rfl, stepEntries_eq_ok_iff.mp listed, shapes, names ▸ unique⟩
  · rintro ⟨members, entries, rfl, listed, shapes, unique⟩
    obtain ⟨nodes, described, names⟩ := exists_entryNodes_of_wellShaped shapes
    obtain ⟨graph, loaded, -⟩ :=
      exists_ofJson (stepEntries_eq_ok_iff.mpr listed) described (names ▸ unique)
    exact ⟨graph, loaded⟩

theorem builtFrom_of_ofJson {value : Json} {graph : Graph} (loaded : ofJson value = .ok graph) :
    ∃ members entries, value = .object members ∧ Lists members entries ∧
      graph.BuiltFrom entries := by
  have ids := (ofJson_wellFormed loaded).edgeIds_nodup
  obtain ⟨members, entries, nodes, rfl, listed, described, -, chained⟩ :=
    ofJson_eq_ok_iff.mp loaded
  obtain ⟨drawn, joined, ends⟩ := connectChain_eq_ok ⟨nodes, [], 0⟩
    (nodes.map StepNode.name) (fun _ member => member)
  cases chained.symm.trans joined
  exact ⟨members, entries, rfl, stepEntries_eq_ok_iff.mp listed,
    described.makes.2.2, ends, ids, rfl⟩

theorem ofJson_eq_error_iff {value : Json} {error : LoadError} :
    ofJson value = .error error ↔ Rejected value error := by
  cases value with
  | object members =>
      rw [ofJson, Except.bind_eq_error_iff]
      simp only [Except.mapError_eq_error_iff, Except.mapError_eq_ok_iff,
        Except.bind_eq_error_iff, stepEntries_eq_error_iff, stepEntries_eq_ok_iff,
        insertEntries_eq_error_iff (show Graph.empty.names.Nodup from List.nodup_nil)]
      constructor
      · rintro (⟨_, ⟨⟨steps, held, given, noArray⟩, rfl⟩, rfl⟩ |
          ⟨entries, listed, ⟨before, entry, after, rfl, shapes, unique, refused⟩ |
            ⟨inserted, -, _, stuck, -⟩⟩)
        · exact .stepsNotArray held given noArray
        · exact .entry listed shapes (by simpa [Graph.empty, names] using unique)
            (by simpa [Graph.empty, names] using refused)
        · obtain ⟨joined, done⟩ := exists_connectChain inserted
          cases stuck.symm.trans done
      · rintro (bare | ⟨held, given, noArray⟩ | ⟨listed, shapes, unique, refused⟩)
        · exact absurd rfl (bare members)
        · exact .inl ⟨_, ⟨⟨_, held, given, noArray⟩, rfl⟩, rfl⟩
        · exact .inr ⟨_, listed, .inl ⟨_, _, _, rfl, shapes,
            by simpa [Graph.empty, names] using unique,
            by simpa [Graph.empty, names] using refused⟩⟩
  | null | bool _ | number _ | string _ | array _ =>
      constructor
      · intro h
        cases h
        exact .notObject fun _ same => by cases same
      · rintro (_ | _ | _)
        rfl

/-- Which values are definitions, what graph such a value opens as, which error any other
value gets, and that no failure comes from joining the steps. -/
theorem ofJson_format (value : Json) :
    ((∃ graph, ofJson value = .ok graph) ↔ Acceptable value) ∧
      (∀ graph, ofJson value = .ok graph → ∃ members entries, value = .object members ∧
        Lists members entries ∧ graph.BuiltFrom entries) ∧
      (∀ error, ofJson value = .error error ↔ Rejected value error) ∧
      ∀ inserted : Graph, ∃ joined, inserted.connectChain inserted.names = .ok joined :=
  ⟨exists_ofJson_iff, fun _ => builtFrom_of_ofJson, fun _ => ofJson_eq_error_iff,
    exists_connectChain⟩

/-- A name made up for one entry can be the name of an earlier one. -/
example : ofJson (.object [("steps", .array [
    .object [("name", .string "delay-1"), ("type", .string "delay")],
    .object [("name", .string " "), ("type", .string "delay")]])]) =
    .error (.graph (.duplicateName "delay-1")) := by rfl

end

end Graph

end Workflow
